/-
# Zones of Australia

Each row is a transition: its start in UTC seconds since the start of 1970, then its regime: the
offset and the daylight saving in it, both in minutes. The regime in front of the rows is the
initial one.
-/

import TypedInputs.Zone.Rules

namespace TypedInputs
namespace Zone
namespace Australia

/-- The rules of `Australia/Lord_Howe`. -/
def lordHowe : Rules :=
  ⟨⟨636, 0⟩,
   [⟨-2147483648, ⟨600, 0⟩⟩, ⟨352216800, ⟨630, 0⟩⟩, ⟨372785400, ⟨690, 60⟩⟩,
    ⟨384273000, ⟨630, 0⟩⟩, ⟨404839800, ⟨690, 60⟩⟩, ⟨415722600, ⟨630, 0⟩⟩, ⟨436289400, ⟨690, 60⟩⟩,
    ⟨447172200, ⟨630, 0⟩⟩, ⟨467739000, ⟨690, 60⟩⟩, ⟨478621800, ⟨630, 0⟩⟩, ⟨499188600, ⟨660, 30⟩⟩,
    ⟨511282800, ⟨630, 0⟩⟩, ⟨530033400, ⟨660, 30⟩⟩, ⟨542732400, ⟨630, 0⟩⟩, ⟨562087800, ⟨660, 30⟩⟩,
    ⟨574786800, ⟨630, 0⟩⟩, ⟨594142200, ⟨660, 30⟩⟩, ⟨606236400, ⟨630, 0⟩⟩, ⟨625591800, ⟨660, 30⟩⟩,
    ⟨636476400, ⟨630, 0⟩⟩, ⟨657041400, ⟨660, 30⟩⟩, ⟨667926000, ⟨630, 0⟩⟩, ⟨688491000, ⟨660, 30⟩⟩,
    ⟨699375600, ⟨630, 0⟩⟩, ⟨719940600, ⟨660, 30⟩⟩, ⟨731430000, ⟨630, 0⟩⟩, ⟨751995000, ⟨660, 30⟩⟩,
    ⟨762879600, ⟨630, 0⟩⟩, ⟨783444600, ⟨660, 30⟩⟩, ⟨794329200, ⟨630, 0⟩⟩, ⟨814894200, ⟨660, 30⟩⟩,
    ⟨828198000, ⟨630, 0⟩⟩, ⟨846343800, ⟨660, 30⟩⟩, ⟨859647600, ⟨630, 0⟩⟩, ⟨877793400, ⟨660, 30⟩⟩,
    ⟨891097200, ⟨630, 0⟩⟩, ⟨909243000, ⟨660, 30⟩⟩, ⟨922546800, ⟨630, 0⟩⟩, ⟨941297400, ⟨660, 30⟩⟩,
    ⟨953996400, ⟨630, 0⟩⟩, ⟨967303800, ⟨660, 30⟩⟩, ⟨985446000, ⟨630, 0⟩⟩,
    ⟨1004196600, ⟨660, 30⟩⟩, ⟨1017500400, ⟨630, 0⟩⟩, ⟨1035646200, ⟨660, 30⟩⟩,
    ⟨1048950000, ⟨630, 0⟩⟩, ⟨1067095800, ⟨660, 30⟩⟩, ⟨1080399600, ⟨630, 0⟩⟩,
    ⟨1099150200, ⟨660, 30⟩⟩, ⟨1111849200, ⟨630, 0⟩⟩, ⟨1130599800, ⟨660, 30⟩⟩,
    ⟨1143903600, ⟨630, 0⟩⟩, ⟨1162049400, ⟨660, 30⟩⟩, ⟨1174748400, ⟨630, 0⟩⟩,
    ⟨1193499000, ⟨660, 30⟩⟩, ⟨1207407600, ⟨630, 0⟩⟩, ⟨1223134200, ⟨660, 30⟩⟩,
    ⟨1238857200, ⟨630, 0⟩⟩, ⟨1254583800, ⟨660, 30⟩⟩, ⟨1270306800, ⟨630, 0⟩⟩,
    ⟨1286033400, ⟨660, 30⟩⟩, ⟨1301756400, ⟨630, 0⟩⟩, ⟨1317483000, ⟨660, 30⟩⟩,
    ⟨1333206000, ⟨630, 0⟩⟩, ⟨1349537400, ⟨660, 30⟩⟩, ⟨1365260400, ⟨630, 0⟩⟩,
    ⟨1380987000, ⟨660, 30⟩⟩, ⟨1396710000, ⟨630, 0⟩⟩, ⟨1412436600, ⟨660, 30⟩⟩,
    ⟨1428159600, ⟨630, 0⟩⟩, ⟨1443886200, ⟨660, 30⟩⟩, ⟨1459609200, ⟨630, 0⟩⟩,
    ⟨1475335800, ⟨660, 30⟩⟩, ⟨1491058800, ⟨630, 0⟩⟩, ⟨1506785400, ⟨660, 30⟩⟩,
    ⟨1522508400, ⟨630, 0⟩⟩, ⟨1538839800, ⟨660, 30⟩⟩, ⟨1554562800, ⟨630, 0⟩⟩,
    ⟨1570289400, ⟨660, 30⟩⟩, ⟨1586012400, ⟨630, 0⟩⟩, ⟨1601739000, ⟨660, 30⟩⟩,
    ⟨1617462000, ⟨630, 0⟩⟩, ⟨1633188600, ⟨660, 30⟩⟩, ⟨1648911600, ⟨630, 0⟩⟩,
    ⟨1664638200, ⟨660, 30⟩⟩, ⟨1680361200, ⟨630, 0⟩⟩, ⟨1696087800, ⟨660, 30⟩⟩,
    ⟨1712415600, ⟨630, 0⟩⟩, ⟨1728142200, ⟨660, 30⟩⟩, ⟨1743865200, ⟨630, 0⟩⟩,
    ⟨1759591800, ⟨660, 30⟩⟩, ⟨1775314800, ⟨630, 0⟩⟩, ⟨1791041400, ⟨660, 30⟩⟩,
    ⟨1806764400, ⟨630, 0⟩⟩, ⟨1822491000, ⟨660, 30⟩⟩, ⟨1838214000, ⟨630, 0⟩⟩,
    ⟨1853940600, ⟨660, 30⟩⟩, ⟨1869663600, ⟨630, 0⟩⟩, ⟨1885995000, ⟨660, 30⟩⟩,
    ⟨1901718000, ⟨630, 0⟩⟩, ⟨1917444600, ⟨660, 30⟩⟩, ⟨1933167600, ⟨630, 0⟩⟩,
    ⟨1948894200, ⟨660, 30⟩⟩, ⟨1964617200, ⟨630, 0⟩⟩, ⟨1980343800, ⟨660, 30⟩⟩,
    ⟨1996066800, ⟨630, 0⟩⟩, ⟨2011793400, ⟨660, 30⟩⟩, ⟨2027516400, ⟨630, 0⟩⟩,
    ⟨2043243000, ⟨660, 30⟩⟩, ⟨2058966000, ⟨630, 0⟩⟩, ⟨2075297400, ⟨660, 30⟩⟩,
    ⟨2091020400, ⟨630, 0⟩⟩, ⟨2106747000, ⟨660, 30⟩⟩, ⟨2122470000, ⟨630, 0⟩⟩,
    ⟨2138196600, ⟨660, 30⟩⟩],
   by decide +kernel⟩

/-- The rules of `Australia/Sydney`. -/
def sydney : Rules :=
  ⟨⟨605, 0⟩,
   [⟨-2147483648, ⟨600, 0⟩⟩, ⟨-1672560000, ⟨660, 60⟩⟩, ⟨-1665388800, ⟨600, 0⟩⟩,
    ⟨-883641600, ⟨660, 60⟩⟩, ⟨-876124800, ⟨600, 0⟩⟩, ⟨-860400000, ⟨660, 60⟩⟩,
    ⟨-844675200, ⟨600, 0⟩⟩, ⟨-828345600, ⟨660, 60⟩⟩, ⟨-813225600, ⟨600, 0⟩⟩,
    ⟨57686400, ⟨660, 60⟩⟩, ⟨67968000, ⟨600, 0⟩⟩, ⟨89136000, ⟨660, 60⟩⟩, ⟨100022400, ⟨600, 0⟩⟩,
    ⟨120585600, ⟨660, 60⟩⟩, ⟨131472000, ⟨600, 0⟩⟩, ⟨152035200, ⟨660, 60⟩⟩, ⟨162921600, ⟨600, 0⟩⟩,
    ⟨183484800, ⟨660, 60⟩⟩, ⟨194976000, ⟨600, 0⟩⟩, ⟨215539200, ⟨660, 60⟩⟩, ⟨226425600, ⟨600, 0⟩⟩,
    ⟨246988800, ⟨660, 60⟩⟩, ⟨257875200, ⟨600, 0⟩⟩, ⟨278438400, ⟨660, 60⟩⟩, ⟨289324800, ⟨600, 0⟩⟩,
    ⟨309888000, ⟨660, 60⟩⟩, ⟨320774400, ⟨600, 0⟩⟩, ⟨341337600, ⟨660, 60⟩⟩, ⟨352224000, ⟨600, 0⟩⟩,
    ⟨372787200, ⟨660, 60⟩⟩, ⟨386697600, ⟨600, 0⟩⟩, ⟨404841600, ⟨660, 60⟩⟩, ⟨415728000, ⟨600, 0⟩⟩,
    ⟨436291200, ⟨660, 60⟩⟩, ⟨447177600, ⟨600, 0⟩⟩, ⟨467740800, ⟨660, 60⟩⟩, ⟨478627200, ⟨600, 0⟩⟩,
    ⟨499190400, ⟨660, 60⟩⟩, ⟨511286400, ⟨600, 0⟩⟩, ⟨530035200, ⟨660, 60⟩⟩, ⟨542736000, ⟨600, 0⟩⟩,
    ⟨562089600, ⟨660, 60⟩⟩, ⟨574790400, ⟨600, 0⟩⟩, ⟨594144000, ⟨660, 60⟩⟩, ⟨606240000, ⟨600, 0⟩⟩,
    ⟨625593600, ⟨660, 60⟩⟩, ⟨636480000, ⟨600, 0⟩⟩, ⟨657043200, ⟨660, 60⟩⟩, ⟨667929600, ⟨600, 0⟩⟩,
    ⟨688492800, ⟨660, 60⟩⟩, ⟨699379200, ⟨600, 0⟩⟩, ⟨719942400, ⟨660, 60⟩⟩, ⟨731433600, ⟨600, 0⟩⟩,
    ⟨751996800, ⟨660, 60⟩⟩, ⟨762883200, ⟨600, 0⟩⟩, ⟨783446400, ⟨660, 60⟩⟩, ⟨794332800, ⟨600, 0⟩⟩,
    ⟨814896000, ⟨660, 60⟩⟩, ⟨828201600, ⟨600, 0⟩⟩, ⟨846345600, ⟨660, 60⟩⟩, ⟨859651200, ⟨600, 0⟩⟩,
    ⟨877795200, ⟨660, 60⟩⟩, ⟨891100800, ⟨600, 0⟩⟩, ⟨909244800, ⟨660, 60⟩⟩, ⟨922550400, ⟨600, 0⟩⟩,
    ⟨941299200, ⟨660, 60⟩⟩, ⟨954000000, ⟨600, 0⟩⟩, ⟨967305600, ⟨660, 60⟩⟩, ⟨985449600, ⟨600, 0⟩⟩,
    ⟨1004198400, ⟨660, 60⟩⟩, ⟨1017504000, ⟨600, 0⟩⟩, ⟨1035648000, ⟨660, 60⟩⟩,
    ⟨1048953600, ⟨600, 0⟩⟩, ⟨1067097600, ⟨660, 60⟩⟩, ⟨1080403200, ⟨600, 0⟩⟩,
    ⟨1099152000, ⟨660, 60⟩⟩, ⟨1111852800, ⟨600, 0⟩⟩, ⟨1130601600, ⟨660, 60⟩⟩,
    ⟨1143907200, ⟨600, 0⟩⟩, ⟨1162051200, ⟨660, 60⟩⟩, ⟨1174752000, ⟨600, 0⟩⟩,
    ⟨1193500800, ⟨660, 60⟩⟩, ⟨1207411200, ⟨600, 0⟩⟩, ⟨1223136000, ⟨660, 60⟩⟩,
    ⟨1238860800, ⟨600, 0⟩⟩, ⟨1254585600, ⟨660, 60⟩⟩, ⟨1270310400, ⟨600, 0⟩⟩,
    ⟨1286035200, ⟨660, 60⟩⟩, ⟨1301760000, ⟨600, 0⟩⟩, ⟨1317484800, ⟨660, 60⟩⟩,
    ⟨1333209600, ⟨600, 0⟩⟩, ⟨1349539200, ⟨660, 60⟩⟩, ⟨1365264000, ⟨600, 0⟩⟩,
    ⟨1380988800, ⟨660, 60⟩⟩, ⟨1396713600, ⟨600, 0⟩⟩, ⟨1412438400, ⟨660, 60⟩⟩,
    ⟨1428163200, ⟨600, 0⟩⟩, ⟨1443888000, ⟨660, 60⟩⟩, ⟨1459612800, ⟨600, 0⟩⟩,
    ⟨1475337600, ⟨660, 60⟩⟩, ⟨1491062400, ⟨600, 0⟩⟩, ⟨1506787200, ⟨660, 60⟩⟩,
    ⟨1522512000, ⟨600, 0⟩⟩, ⟨1538841600, ⟨660, 60⟩⟩, ⟨1554566400, ⟨600, 0⟩⟩,
    ⟨1570291200, ⟨660, 60⟩⟩, ⟨1586016000, ⟨600, 0⟩⟩, ⟨1601740800, ⟨660, 60⟩⟩,
    ⟨1617465600, ⟨600, 0⟩⟩, ⟨1633190400, ⟨660, 60⟩⟩, ⟨1648915200, ⟨600, 0⟩⟩,
    ⟨1664640000, ⟨660, 60⟩⟩, ⟨1680364800, ⟨600, 0⟩⟩, ⟨1696089600, ⟨660, 60⟩⟩,
    ⟨1712419200, ⟨600, 0⟩⟩, ⟨1728144000, ⟨660, 60⟩⟩, ⟨1743868800, ⟨600, 0⟩⟩,
    ⟨1759593600, ⟨660, 60⟩⟩, ⟨1775318400, ⟨600, 0⟩⟩, ⟨1791043200, ⟨660, 60⟩⟩,
    ⟨1806768000, ⟨600, 0⟩⟩, ⟨1822492800, ⟨660, 60⟩⟩, ⟨1838217600, ⟨600, 0⟩⟩,
    ⟨1853942400, ⟨660, 60⟩⟩, ⟨1869667200, ⟨600, 0⟩⟩, ⟨1885996800, ⟨660, 60⟩⟩,
    ⟨1901721600, ⟨600, 0⟩⟩, ⟨1917446400, ⟨660, 60⟩⟩, ⟨1933171200, ⟨600, 0⟩⟩,
    ⟨1948896000, ⟨660, 60⟩⟩, ⟨1964620800, ⟨600, 0⟩⟩, ⟨1980345600, ⟨660, 60⟩⟩,
    ⟨1996070400, ⟨600, 0⟩⟩, ⟨2011795200, ⟨660, 60⟩⟩, ⟨2027520000, ⟨600, 0⟩⟩,
    ⟨2043244800, ⟨660, 60⟩⟩, ⟨2058969600, ⟨600, 0⟩⟩, ⟨2075299200, ⟨660, 60⟩⟩,
    ⟨2091024000, ⟨600, 0⟩⟩, ⟨2106748800, ⟨660, 60⟩⟩, ⟨2122473600, ⟨600, 0⟩⟩,
    ⟨2138198400, ⟨660, 60⟩⟩],
   by decide +kernel⟩

end Australia
end Zone
end TypedInputs
