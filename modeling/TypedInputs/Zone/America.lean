/-
# Zones of America

Each row is a transition: its start in UTC seconds since the start of 1970, then its regime: the
offset and the daylight saving in it, both in minutes. The regime in front of the rows is the
initial one.
-/

import TypedInputs.Zone.Rules

namespace TypedInputs
namespace Zone
namespace America

/-- The rules of `America/Caracas`. -/
def caracas : Rules :=
  ⟨⟨-268, 0⟩,
   [⟨-2147483648, ⟨-268, 0⟩⟩, ⟨-1826739140, ⟨-270, 0⟩⟩, ⟨-157750200, ⟨-240, 0⟩⟩,
    ⟨1197183600, ⟨-270, 0⟩⟩, ⟨1462086000, ⟨-240, 0⟩⟩],
   by decide +kernel⟩

/-- The rules of `America/New_York`. -/
def newYork : Rules :=
  ⟨⟨-296, 0⟩,
   [⟨-2147483648, ⟨-300, 0⟩⟩, ⟨-1633280400, ⟨-240, 60⟩⟩, ⟨-1615140000, ⟨-300, 0⟩⟩,
    ⟨-1601830800, ⟨-240, 60⟩⟩, ⟨-1583690400, ⟨-300, 0⟩⟩, ⟨-1570381200, ⟨-240, 60⟩⟩,
    ⟨-1551636000, ⟨-300, 0⟩⟩, ⟨-1536512400, ⟨-240, 60⟩⟩, ⟨-1523210400, ⟨-300, 0⟩⟩,
    ⟨-1504458000, ⟨-240, 60⟩⟩, ⟨-1491760800, ⟨-300, 0⟩⟩, ⟨-1473008400, ⟨-240, 60⟩⟩,
    ⟨-1459706400, ⟨-300, 0⟩⟩, ⟨-1441558800, ⟨-240, 60⟩⟩, ⟨-1428256800, ⟨-300, 0⟩⟩,
    ⟨-1410109200, ⟨-240, 60⟩⟩, ⟨-1396807200, ⟨-300, 0⟩⟩, ⟨-1378659600, ⟨-240, 60⟩⟩,
    ⟨-1365357600, ⟨-300, 0⟩⟩, ⟨-1347210000, ⟨-240, 60⟩⟩, ⟨-1333908000, ⟨-300, 0⟩⟩,
    ⟨-1315155600, ⟨-240, 60⟩⟩, ⟨-1301853600, ⟨-300, 0⟩⟩, ⟨-1283706000, ⟨-240, 60⟩⟩,
    ⟨-1270404000, ⟨-300, 0⟩⟩, ⟨-1252256400, ⟨-240, 60⟩⟩, ⟨-1238954400, ⟨-300, 0⟩⟩,
    ⟨-1220806800, ⟨-240, 60⟩⟩, ⟨-1207504800, ⟨-300, 0⟩⟩, ⟨-1189357200, ⟨-240, 60⟩⟩,
    ⟨-1176055200, ⟨-300, 0⟩⟩, ⟨-1157302800, ⟨-240, 60⟩⟩, ⟨-1144605600, ⟨-300, 0⟩⟩,
    ⟨-1125853200, ⟨-240, 60⟩⟩, ⟨-1112551200, ⟨-300, 0⟩⟩, ⟨-1094403600, ⟨-240, 60⟩⟩,
    ⟨-1081101600, ⟨-300, 0⟩⟩, ⟨-1062954000, ⟨-240, 60⟩⟩, ⟨-1049652000, ⟨-300, 0⟩⟩,
    ⟨-1031504400, ⟨-240, 60⟩⟩, ⟨-1018202400, ⟨-300, 0⟩⟩, ⟨-1000054800, ⟨-240, 60⟩⟩,
    ⟨-986752800, ⟨-300, 0⟩⟩, ⟨-968000400, ⟨-240, 60⟩⟩, ⟨-955303200, ⟨-300, 0⟩⟩,
    ⟨-936550800, ⟨-240, 60⟩⟩, ⟨-923248800, ⟨-300, 0⟩⟩, ⟨-905101200, ⟨-240, 60⟩⟩,
    ⟨-891799200, ⟨-300, 0⟩⟩, ⟨-880218000, ⟨-240, 60⟩⟩, ⟨-769395600, ⟨-240, 60⟩⟩,
    ⟨-765396000, ⟨-300, 0⟩⟩, ⟨-747248400, ⟨-240, 60⟩⟩, ⟨-733946400, ⟨-300, 0⟩⟩,
    ⟨-715798800, ⟨-240, 60⟩⟩, ⟨-702496800, ⟨-300, 0⟩⟩, ⟨-684349200, ⟨-240, 60⟩⟩,
    ⟨-671047200, ⟨-300, 0⟩⟩, ⟨-652899600, ⟨-240, 60⟩⟩, ⟨-639597600, ⟨-300, 0⟩⟩,
    ⟨-620845200, ⟨-240, 60⟩⟩, ⟨-608148000, ⟨-300, 0⟩⟩, ⟨-589395600, ⟨-240, 60⟩⟩,
    ⟨-576093600, ⟨-300, 0⟩⟩, ⟨-557946000, ⟨-240, 60⟩⟩, ⟨-544644000, ⟨-300, 0⟩⟩,
    ⟨-526496400, ⟨-240, 60⟩⟩, ⟨-513194400, ⟨-300, 0⟩⟩, ⟨-495046800, ⟨-240, 60⟩⟩,
    ⟨-481744800, ⟨-300, 0⟩⟩, ⟨-463597200, ⟨-240, 60⟩⟩, ⟨-447271200, ⟨-300, 0⟩⟩,
    ⟨-431542800, ⟨-240, 60⟩⟩, ⟨-415821600, ⟨-300, 0⟩⟩, ⟨-400093200, ⟨-240, 60⟩⟩,
    ⟨-384372000, ⟨-300, 0⟩⟩, ⟨-368643600, ⟨-240, 60⟩⟩, ⟨-352922400, ⟨-300, 0⟩⟩,
    ⟨-337194000, ⟨-240, 60⟩⟩, ⟨-321472800, ⟨-300, 0⟩⟩, ⟨-305744400, ⟨-240, 60⟩⟩,
    ⟨-289418400, ⟨-300, 0⟩⟩, ⟨-273690000, ⟨-240, 60⟩⟩, ⟨-257968800, ⟨-300, 0⟩⟩,
    ⟨-242240400, ⟨-240, 60⟩⟩, ⟨-226519200, ⟨-300, 0⟩⟩, ⟨-210790800, ⟨-240, 60⟩⟩,
    ⟨-195069600, ⟨-300, 0⟩⟩, ⟨-179341200, ⟨-240, 60⟩⟩, ⟨-163620000, ⟨-300, 0⟩⟩,
    ⟨-147891600, ⟨-240, 60⟩⟩, ⟨-131565600, ⟨-300, 0⟩⟩, ⟨-116442000, ⟨-240, 60⟩⟩,
    ⟨-100116000, ⟨-300, 0⟩⟩, ⟨-84387600, ⟨-240, 60⟩⟩, ⟨-68666400, ⟨-300, 0⟩⟩,
    ⟨-52938000, ⟨-240, 60⟩⟩, ⟨-37216800, ⟨-300, 0⟩⟩, ⟨-21488400, ⟨-240, 60⟩⟩,
    ⟨-5767200, ⟨-300, 0⟩⟩, ⟨9961200, ⟨-240, 60⟩⟩, ⟨25682400, ⟨-300, 0⟩⟩, ⟨41410800, ⟨-240, 60⟩⟩,
    ⟨57736800, ⟨-300, 0⟩⟩, ⟨73465200, ⟨-240, 60⟩⟩, ⟨89186400, ⟨-300, 0⟩⟩,
    ⟨104914800, ⟨-240, 60⟩⟩, ⟨120636000, ⟨-300, 0⟩⟩, ⟨126687600, ⟨-240, 60⟩⟩,
    ⟨152085600, ⟨-300, 0⟩⟩, ⟨162370800, ⟨-240, 60⟩⟩, ⟨183535200, ⟨-300, 0⟩⟩,
    ⟨199263600, ⟨-240, 60⟩⟩, ⟨215589600, ⟨-300, 0⟩⟩, ⟨230713200, ⟨-240, 60⟩⟩,
    ⟨247039200, ⟨-300, 0⟩⟩, ⟨262767600, ⟨-240, 60⟩⟩, ⟨278488800, ⟨-300, 0⟩⟩,
    ⟨294217200, ⟨-240, 60⟩⟩, ⟨309938400, ⟨-300, 0⟩⟩, ⟨325666800, ⟨-240, 60⟩⟩,
    ⟨341388000, ⟨-300, 0⟩⟩, ⟨357116400, ⟨-240, 60⟩⟩, ⟨372837600, ⟨-300, 0⟩⟩,
    ⟨388566000, ⟨-240, 60⟩⟩, ⟨404892000, ⟨-300, 0⟩⟩, ⟨420015600, ⟨-240, 60⟩⟩,
    ⟨436341600, ⟨-300, 0⟩⟩, ⟨452070000, ⟨-240, 60⟩⟩, ⟨467791200, ⟨-300, 0⟩⟩,
    ⟨483519600, ⟨-240, 60⟩⟩, ⟨499240800, ⟨-300, 0⟩⟩, ⟨514969200, ⟨-240, 60⟩⟩,
    ⟨530690400, ⟨-300, 0⟩⟩, ⟨544604400, ⟨-240, 60⟩⟩, ⟨562140000, ⟨-300, 0⟩⟩,
    ⟨576054000, ⟨-240, 60⟩⟩, ⟨594194400, ⟨-300, 0⟩⟩, ⟨607503600, ⟨-240, 60⟩⟩,
    ⟨625644000, ⟨-300, 0⟩⟩, ⟨638953200, ⟨-240, 60⟩⟩, ⟨657093600, ⟨-300, 0⟩⟩,
    ⟨671007600, ⟨-240, 60⟩⟩, ⟨688543200, ⟨-300, 0⟩⟩, ⟨702457200, ⟨-240, 60⟩⟩,
    ⟨719992800, ⟨-300, 0⟩⟩, ⟨733906800, ⟨-240, 60⟩⟩, ⟨752047200, ⟨-300, 0⟩⟩,
    ⟨765356400, ⟨-240, 60⟩⟩, ⟨783496800, ⟨-300, 0⟩⟩, ⟨796806000, ⟨-240, 60⟩⟩,
    ⟨814946400, ⟨-300, 0⟩⟩, ⟨828860400, ⟨-240, 60⟩⟩, ⟨846396000, ⟨-300, 0⟩⟩,
    ⟨860310000, ⟨-240, 60⟩⟩, ⟨877845600, ⟨-300, 0⟩⟩, ⟨891759600, ⟨-240, 60⟩⟩,
    ⟨909295200, ⟨-300, 0⟩⟩, ⟨923209200, ⟨-240, 60⟩⟩, ⟨941349600, ⟨-300, 0⟩⟩,
    ⟨954658800, ⟨-240, 60⟩⟩, ⟨972799200, ⟨-300, 0⟩⟩, ⟨986108400, ⟨-240, 60⟩⟩,
    ⟨1004248800, ⟨-300, 0⟩⟩, ⟨1018162800, ⟨-240, 60⟩⟩, ⟨1035698400, ⟨-300, 0⟩⟩,
    ⟨1049612400, ⟨-240, 60⟩⟩, ⟨1067148000, ⟨-300, 0⟩⟩, ⟨1081062000, ⟨-240, 60⟩⟩,
    ⟨1099202400, ⟨-300, 0⟩⟩, ⟨1112511600, ⟨-240, 60⟩⟩, ⟨1130652000, ⟨-300, 0⟩⟩,
    ⟨1143961200, ⟨-240, 60⟩⟩, ⟨1162101600, ⟨-300, 0⟩⟩, ⟨1173596400, ⟨-240, 60⟩⟩,
    ⟨1194156000, ⟨-300, 0⟩⟩, ⟨1205046000, ⟨-240, 60⟩⟩, ⟨1225605600, ⟨-300, 0⟩⟩,
    ⟨1236495600, ⟨-240, 60⟩⟩, ⟨1257055200, ⟨-300, 0⟩⟩, ⟨1268550000, ⟨-240, 60⟩⟩,
    ⟨1289109600, ⟨-300, 0⟩⟩, ⟨1299999600, ⟨-240, 60⟩⟩, ⟨1320559200, ⟨-300, 0⟩⟩,
    ⟨1331449200, ⟨-240, 60⟩⟩, ⟨1352008800, ⟨-300, 0⟩⟩, ⟨1362898800, ⟨-240, 60⟩⟩,
    ⟨1383458400, ⟨-300, 0⟩⟩, ⟨1394348400, ⟨-240, 60⟩⟩, ⟨1414908000, ⟨-300, 0⟩⟩,
    ⟨1425798000, ⟨-240, 60⟩⟩, ⟨1446357600, ⟨-300, 0⟩⟩, ⟨1457852400, ⟨-240, 60⟩⟩,
    ⟨1478412000, ⟨-300, 0⟩⟩, ⟨1489302000, ⟨-240, 60⟩⟩, ⟨1509861600, ⟨-300, 0⟩⟩,
    ⟨1520751600, ⟨-240, 60⟩⟩, ⟨1541311200, ⟨-300, 0⟩⟩, ⟨1552201200, ⟨-240, 60⟩⟩,
    ⟨1572760800, ⟨-300, 0⟩⟩, ⟨1583650800, ⟨-240, 60⟩⟩, ⟨1604210400, ⟨-300, 0⟩⟩,
    ⟨1615705200, ⟨-240, 60⟩⟩, ⟨1636264800, ⟨-300, 0⟩⟩, ⟨1647154800, ⟨-240, 60⟩⟩,
    ⟨1667714400, ⟨-300, 0⟩⟩, ⟨1678604400, ⟨-240, 60⟩⟩, ⟨1699164000, ⟨-300, 0⟩⟩,
    ⟨1710054000, ⟨-240, 60⟩⟩, ⟨1730613600, ⟨-300, 0⟩⟩, ⟨1741503600, ⟨-240, 60⟩⟩,
    ⟨1762063200, ⟨-300, 0⟩⟩, ⟨1772953200, ⟨-240, 60⟩⟩, ⟨1793512800, ⟨-300, 0⟩⟩,
    ⟨1805007600, ⟨-240, 60⟩⟩, ⟨1825567200, ⟨-300, 0⟩⟩, ⟨1836457200, ⟨-240, 60⟩⟩,
    ⟨1857016800, ⟨-300, 0⟩⟩, ⟨1867906800, ⟨-240, 60⟩⟩, ⟨1888466400, ⟨-300, 0⟩⟩,
    ⟨1899356400, ⟨-240, 60⟩⟩, ⟨1919916000, ⟨-300, 0⟩⟩, ⟨1930806000, ⟨-240, 60⟩⟩,
    ⟨1951365600, ⟨-300, 0⟩⟩, ⟨1962860400, ⟨-240, 60⟩⟩, ⟨1983420000, ⟨-300, 0⟩⟩,
    ⟨1994310000, ⟨-240, 60⟩⟩, ⟨2014869600, ⟨-300, 0⟩⟩, ⟨2025759600, ⟨-240, 60⟩⟩,
    ⟨2046319200, ⟨-300, 0⟩⟩, ⟨2057209200, ⟨-240, 60⟩⟩, ⟨2077768800, ⟨-300, 0⟩⟩,
    ⟨2088658800, ⟨-240, 60⟩⟩, ⟨2109218400, ⟨-300, 0⟩⟩, ⟨2120108400, ⟨-240, 60⟩⟩,
    ⟨2140668000, ⟨-300, 0⟩⟩],
   by decide +kernel⟩

/-- The rules of `America/Sao_Paulo`. -/
def saoPaulo : Rules :=
  ⟨⟨-186, 0⟩,
   [⟨-1767214412, ⟨-180, 0⟩⟩, ⟨-1206957600, ⟨-120, 60⟩⟩, ⟨-1191362400, ⟨-180, 0⟩⟩,
    ⟨-1175374800, ⟨-120, 60⟩⟩, ⟨-1159826400, ⟨-180, 0⟩⟩, ⟨-633819600, ⟨-120, 60⟩⟩,
    ⟨-622069200, ⟨-180, 0⟩⟩, ⟨-602283600, ⟨-120, 60⟩⟩, ⟨-591832800, ⟨-180, 0⟩⟩,
    ⟨-570747600, ⟨-120, 60⟩⟩, ⟨-560210400, ⟨-180, 0⟩⟩, ⟨-539125200, ⟨-120, 60⟩⟩,
    ⟨-531352800, ⟨-180, 0⟩⟩, ⟨-195426000, ⟨-120, 60⟩⟩, ⟨-184197600, ⟨-180, 0⟩⟩,
    ⟨-155163600, ⟨-120, 60⟩⟩, ⟨-149983200, ⟨-180, 0⟩⟩, ⟨-128898000, ⟨-120, 60⟩⟩,
    ⟨-121122000, ⟨-180, 0⟩⟩, ⟨-99954000, ⟨-120, 60⟩⟩, ⟨-89589600, ⟨-180, 0⟩⟩,
    ⟨-68418000, ⟨-120, 60⟩⟩, ⟨-57967200, ⟨-180, 0⟩⟩, ⟨499748400, ⟨-120, 60⟩⟩,
    ⟨511236000, ⟨-180, 0⟩⟩, ⟨530593200, ⟨-120, 60⟩⟩, ⟨540266400, ⟨-180, 0⟩⟩,
    ⟨562129200, ⟨-120, 60⟩⟩, ⟨571197600, ⟨-180, 0⟩⟩, ⟨592974000, ⟨-120, 60⟩⟩,
    ⟨602042400, ⟨-180, 0⟩⟩, ⟨624423600, ⟨-120, 60⟩⟩, ⟨634701600, ⟨-180, 0⟩⟩,
    ⟨656478000, ⟨-120, 60⟩⟩, ⟨666756000, ⟨-180, 0⟩⟩, ⟨687927600, ⟨-120, 60⟩⟩,
    ⟨697600800, ⟨-180, 0⟩⟩, ⟨719982000, ⟨-120, 60⟩⟩, ⟨728445600, ⟨-180, 0⟩⟩,
    ⟨750826800, ⟨-120, 60⟩⟩, ⟨761709600, ⟨-180, 0⟩⟩, ⟨782276400, ⟨-120, 60⟩⟩,
    ⟨793159200, ⟨-180, 0⟩⟩, ⟨813726000, ⟨-120, 60⟩⟩, ⟨824004000, ⟨-180, 0⟩⟩,
    ⟨844570800, ⟨-120, 60⟩⟩, ⟨856058400, ⟨-180, 0⟩⟩, ⟨876106800, ⟨-120, 60⟩⟩,
    ⟨888717600, ⟨-180, 0⟩⟩, ⟨908074800, ⟨-120, 60⟩⟩, ⟨919562400, ⟨-180, 0⟩⟩,
    ⟨938919600, ⟨-120, 60⟩⟩, ⟨951616800, ⟨-180, 0⟩⟩, ⟨970974000, ⟨-120, 60⟩⟩,
    ⟨982461600, ⟨-180, 0⟩⟩, ⟨1003028400, ⟨-120, 60⟩⟩, ⟨1013911200, ⟨-180, 0⟩⟩,
    ⟨1036292400, ⟨-120, 60⟩⟩, ⟨1045360800, ⟨-180, 0⟩⟩, ⟨1066532400, ⟨-120, 60⟩⟩,
    ⟨1076810400, ⟨-180, 0⟩⟩, ⟨1099364400, ⟨-120, 60⟩⟩, ⟨1108864800, ⟨-180, 0⟩⟩,
    ⟨1129431600, ⟨-120, 60⟩⟩, ⟨1140314400, ⟨-180, 0⟩⟩, ⟨1162695600, ⟨-120, 60⟩⟩,
    ⟨1172368800, ⟨-180, 0⟩⟩, ⟨1192330800, ⟨-120, 60⟩⟩, ⟨1203213600, ⟨-180, 0⟩⟩,
    ⟨1224385200, ⟨-120, 60⟩⟩, ⟨1234663200, ⟨-180, 0⟩⟩, ⟨1255834800, ⟨-120, 60⟩⟩,
    ⟨1266717600, ⟨-180, 0⟩⟩, ⟨1287284400, ⟨-120, 60⟩⟩, ⟨1298167200, ⟨-180, 0⟩⟩,
    ⟨1318734000, ⟨-120, 60⟩⟩, ⟨1330221600, ⟨-180, 0⟩⟩, ⟨1350788400, ⟨-120, 60⟩⟩,
    ⟨1361066400, ⟨-180, 0⟩⟩, ⟨1382238000, ⟨-120, 60⟩⟩, ⟨1392516000, ⟨-180, 0⟩⟩,
    ⟨1413687600, ⟨-120, 60⟩⟩, ⟨1424570400, ⟨-180, 0⟩⟩, ⟨1445137200, ⟨-120, 60⟩⟩,
    ⟨1456020000, ⟨-180, 0⟩⟩, ⟨1476586800, ⟨-120, 60⟩⟩, ⟨1487469600, ⟨-180, 0⟩⟩,
    ⟨1508036400, ⟨-120, 60⟩⟩, ⟨1518919200, ⟨-180, 0⟩⟩, ⟨1541300400, ⟨-120, 60⟩⟩,
    ⟨1550368800, ⟨-180, 0⟩⟩],
   by decide +kernel⟩

/-- The rules of `America/St_Johns`. -/
def stJohns : Rules :=
  ⟨⟨-211, 0⟩,
   [⟨-2147483648, ⟨-211, 0⟩⟩, ⟨-1664130548, ⟨-151, 60⟩⟩, ⟨-1650137348, ⟨-211, 0⟩⟩,
    ⟨-1632076148, ⟨-151, 60⟩⟩, ⟨-1615145348, ⟨-211, 0⟩⟩, ⟨-1598650148, ⟨-151, 60⟩⟩,
    ⟨-1590100148, ⟨-211, 0⟩⟩, ⟨-1567286948, ⟨-151, 60⟩⟩, ⟨-1551565748, ⟨-211, 0⟩⟩,
    ⟨-1535837348, ⟨-151, 60⟩⟩, ⟨-1520116148, ⟨-211, 0⟩⟩, ⟨-1503782948, ⟨-151, 60⟩⟩,
    ⟨-1488666548, ⟨-211, 0⟩⟩, ⟨-1472333348, ⟨-151, 60⟩⟩, ⟨-1457216948, ⟨-211, 0⟩⟩,
    ⟨-1440883748, ⟨-151, 60⟩⟩, ⟨-1425767348, ⟨-211, 0⟩⟩, ⟨-1409434148, ⟨-151, 60⟩⟩,
    ⟨-1394317748, ⟨-211, 0⟩⟩, ⟨-1377984548, ⟨-151, 60⟩⟩, ⟨-1362263348, ⟨-211, 0⟩⟩,
    ⟨-1346534948, ⟨-151, 60⟩⟩, ⟨-1330813748, ⟨-211, 0⟩⟩, ⟨-1314480548, ⟨-151, 60⟩⟩,
    ⟨-1299364148, ⟨-211, 0⟩⟩, ⟨-1283030948, ⟨-151, 60⟩⟩, ⟨-1267914548, ⟨-211, 0⟩⟩,
    ⟨-1251581348, ⟨-151, 60⟩⟩, ⟨-1236464948, ⟨-211, 0⟩⟩, ⟨-1220131748, ⟨-151, 60⟩⟩,
    ⟨-1205015348, ⟨-211, 0⟩⟩, ⟨-1188682148, ⟨-151, 60⟩⟩, ⟨-1172960948, ⟨-211, 0⟩⟩,
    ⟨-1156627748, ⟨-151, 60⟩⟩, ⟨-1141511348, ⟨-211, 0⟩⟩, ⟨-1125178148, ⟨-151, 60⟩⟩,
    ⟨-1110061748, ⟨-211, 0⟩⟩, ⟨-1096921748, ⟨-210, 0⟩⟩, ⟨-1093728600, ⟨-150, 60⟩⟩,
    ⟨-1078612200, ⟨-210, 0⟩⟩, ⟨-1061670600, ⟨-150, 60⟩⟩, ⟨-1048973400, ⟨-210, 0⟩⟩,
    ⟨-1030221000, ⟨-150, 60⟩⟩, ⟨-1017523800, ⟨-210, 0⟩⟩, ⟨-998771400, ⟨-150, 60⟩⟩,
    ⟨-986074200, ⟨-210, 0⟩⟩, ⟨-966717000, ⟨-150, 60⟩⟩, ⟨-954624600, ⟨-210, 0⟩⟩,
    ⟨-935267400, ⟨-150, 60⟩⟩, ⟨-922570200, ⟨-210, 0⟩⟩, ⟨-903817800, ⟨-150, 60⟩⟩,
    ⟨-891120600, ⟨-210, 0⟩⟩, ⟨-872368200, ⟨-150, 60⟩⟩, ⟨-769395600, ⟨-150, 60⟩⟩,
    ⟨-765401400, ⟨-210, 0⟩⟩, ⟨-746044200, ⟨-150, 60⟩⟩, ⟨-733347000, ⟨-210, 0⟩⟩,
    ⟨-714594600, ⟨-150, 60⟩⟩, ⟨-701897400, ⟨-210, 0⟩⟩, ⟨-683145000, ⟨-150, 60⟩⟩,
    ⟨-670447800, ⟨-210, 0⟩⟩, ⟨-651695400, ⟨-150, 60⟩⟩, ⟨-638998200, ⟨-210, 0⟩⟩,
    ⟨-619641000, ⟨-150, 60⟩⟩, ⟨-606943800, ⟨-210, 0⟩⟩, ⟨-589401000, ⟨-150, 60⟩⟩,
    ⟨-576099000, ⟨-210, 0⟩⟩, ⟨-557951400, ⟨-150, 60⟩⟩, ⟨-544649400, ⟨-210, 0⟩⟩,
    ⟨-526501800, ⟨-150, 60⟩⟩, ⟨-513199800, ⟨-210, 0⟩⟩, ⟨-495052200, ⟨-150, 60⟩⟩,
    ⟨-481750200, ⟨-210, 0⟩⟩, ⟨-463602600, ⟨-150, 60⟩⟩, ⟨-450300600, ⟨-210, 0⟩⟩,
    ⟨-431548200, ⟨-150, 60⟩⟩, ⟨-418246200, ⟨-210, 0⟩⟩, ⟨-400098600, ⟨-150, 60⟩⟩,
    ⟨-386796600, ⟨-210, 0⟩⟩, ⟨-368649000, ⟨-150, 60⟩⟩, ⟨-355347000, ⟨-210, 0⟩⟩,
    ⟨-337199400, ⟨-150, 60⟩⟩, ⟨-323897400, ⟨-210, 0⟩⟩, ⟨-305749800, ⟨-150, 60⟩⟩,
    ⟨-289423800, ⟨-210, 0⟩⟩, ⟨-273695400, ⟨-150, 60⟩⟩, ⟨-257974200, ⟨-210, 0⟩⟩,
    ⟨-242245800, ⟨-150, 60⟩⟩, ⟨-226524600, ⟨-210, 0⟩⟩, ⟨-210796200, ⟨-150, 60⟩⟩,
    ⟨-195075000, ⟨-210, 0⟩⟩, ⟨-179346600, ⟨-150, 60⟩⟩, ⟨-163625400, ⟨-210, 0⟩⟩,
    ⟨-147897000, ⟨-150, 60⟩⟩, ⟨-131571000, ⟨-210, 0⟩⟩, ⟨-116447400, ⟨-150, 60⟩⟩,
    ⟨-100121400, ⟨-210, 0⟩⟩, ⟨-84393000, ⟨-150, 60⟩⟩, ⟨-68671800, ⟨-210, 0⟩⟩,
    ⟨-52943400, ⟨-150, 60⟩⟩, ⟨-37222200, ⟨-210, 0⟩⟩, ⟨-21493800, ⟨-150, 60⟩⟩,
    ⟨-5772600, ⟨-210, 0⟩⟩, ⟨9955800, ⟨-150, 60⟩⟩, ⟨25677000, ⟨-210, 0⟩⟩, ⟨41405400, ⟨-150, 60⟩⟩,
    ⟨57731400, ⟨-210, 0⟩⟩, ⟨73459800, ⟨-150, 60⟩⟩, ⟨89181000, ⟨-210, 0⟩⟩,
    ⟨104909400, ⟨-150, 60⟩⟩, ⟨120630600, ⟨-210, 0⟩⟩, ⟨136359000, ⟨-150, 60⟩⟩,
    ⟨152080200, ⟨-210, 0⟩⟩, ⟨167808600, ⟨-150, 60⟩⟩, ⟨183529800, ⟨-210, 0⟩⟩,
    ⟨199258200, ⟨-150, 60⟩⟩, ⟨215584200, ⟨-210, 0⟩⟩, ⟨230707800, ⟨-150, 60⟩⟩,
    ⟨247033800, ⟨-210, 0⟩⟩, ⟨262762200, ⟨-150, 60⟩⟩, ⟨278483400, ⟨-210, 0⟩⟩,
    ⟨294211800, ⟨-150, 60⟩⟩, ⟨309933000, ⟨-210, 0⟩⟩, ⟨325661400, ⟨-150, 60⟩⟩,
    ⟨341382600, ⟨-210, 0⟩⟩, ⟨357111000, ⟨-150, 60⟩⟩, ⟨372832200, ⟨-210, 0⟩⟩,
    ⟨388560600, ⟨-150, 60⟩⟩, ⟨404886600, ⟨-210, 0⟩⟩, ⟨420010200, ⟨-150, 60⟩⟩,
    ⟨436336200, ⟨-210, 0⟩⟩, ⟨452064600, ⟨-150, 60⟩⟩, ⟨467785800, ⟨-210, 0⟩⟩,
    ⟨483514200, ⟨-150, 60⟩⟩, ⟨499235400, ⟨-210, 0⟩⟩, ⟨514963800, ⟨-150, 60⟩⟩,
    ⟨530685000, ⟨-210, 0⟩⟩, ⟨544591860, ⟨-150, 60⟩⟩, ⟨562127460, ⟨-210, 0⟩⟩,
    ⟨576041460, ⟨-90, 120⟩⟩, ⟨594178260, ⟨-210, 0⟩⟩, ⟨607491060, ⟨-150, 60⟩⟩,
    ⟨625631460, ⟨-210, 0⟩⟩, ⟨638940660, ⟨-150, 60⟩⟩, ⟨657081060, ⟨-210, 0⟩⟩,
    ⟨670995060, ⟨-150, 60⟩⟩, ⟨688530660, ⟨-210, 0⟩⟩, ⟨702444660, ⟨-150, 60⟩⟩,
    ⟨719980260, ⟨-210, 0⟩⟩, ⟨733894260, ⟨-150, 60⟩⟩, ⟨752034660, ⟨-210, 0⟩⟩,
    ⟨765343860, ⟨-150, 60⟩⟩, ⟨783484260, ⟨-210, 0⟩⟩, ⟨796793460, ⟨-150, 60⟩⟩,
    ⟨814933860, ⟨-210, 0⟩⟩, ⟨828847860, ⟨-150, 60⟩⟩, ⟨846383460, ⟨-210, 0⟩⟩,
    ⟨860297460, ⟨-150, 60⟩⟩, ⟨877833060, ⟨-210, 0⟩⟩, ⟨891747060, ⟨-150, 60⟩⟩,
    ⟨909282660, ⟨-210, 0⟩⟩, ⟨923196660, ⟨-150, 60⟩⟩, ⟨941337060, ⟨-210, 0⟩⟩,
    ⟨954646260, ⟨-150, 60⟩⟩, ⟨972786660, ⟨-210, 0⟩⟩, ⟨986095860, ⟨-150, 60⟩⟩,
    ⟨1004236260, ⟨-210, 0⟩⟩, ⟨1018150260, ⟨-150, 60⟩⟩, ⟨1035685860, ⟨-210, 0⟩⟩,
    ⟨1049599860, ⟨-150, 60⟩⟩, ⟨1067135460, ⟨-210, 0⟩⟩, ⟨1081049460, ⟨-150, 60⟩⟩,
    ⟨1099189860, ⟨-210, 0⟩⟩, ⟨1112499060, ⟨-150, 60⟩⟩, ⟨1130639460, ⟨-210, 0⟩⟩,
    ⟨1143948660, ⟨-150, 60⟩⟩, ⟨1162089060, ⟨-210, 0⟩⟩, ⟨1173583860, ⟨-150, 60⟩⟩,
    ⟨1194143460, ⟨-210, 0⟩⟩, ⟨1205033460, ⟨-150, 60⟩⟩, ⟨1225593060, ⟨-210, 0⟩⟩,
    ⟨1236483060, ⟨-150, 60⟩⟩, ⟨1257042660, ⟨-210, 0⟩⟩, ⟨1268537460, ⟨-150, 60⟩⟩,
    ⟨1289097060, ⟨-210, 0⟩⟩, ⟨1299987060, ⟨-150, 60⟩⟩, ⟨1320553800, ⟨-210, 0⟩⟩,
    ⟨1331443800, ⟨-150, 60⟩⟩, ⟨1352003400, ⟨-210, 0⟩⟩, ⟨1362893400, ⟨-150, 60⟩⟩,
    ⟨1383453000, ⟨-210, 0⟩⟩, ⟨1394343000, ⟨-150, 60⟩⟩, ⟨1414902600, ⟨-210, 0⟩⟩,
    ⟨1425792600, ⟨-150, 60⟩⟩, ⟨1446352200, ⟨-210, 0⟩⟩, ⟨1457847000, ⟨-150, 60⟩⟩,
    ⟨1478406600, ⟨-210, 0⟩⟩, ⟨1489296600, ⟨-150, 60⟩⟩, ⟨1509856200, ⟨-210, 0⟩⟩,
    ⟨1520746200, ⟨-150, 60⟩⟩, ⟨1541305800, ⟨-210, 0⟩⟩, ⟨1552195800, ⟨-150, 60⟩⟩,
    ⟨1572755400, ⟨-210, 0⟩⟩, ⟨1583645400, ⟨-150, 60⟩⟩, ⟨1604205000, ⟨-210, 0⟩⟩,
    ⟨1615699800, ⟨-150, 60⟩⟩, ⟨1636259400, ⟨-210, 0⟩⟩, ⟨1647149400, ⟨-150, 60⟩⟩,
    ⟨1667709000, ⟨-210, 0⟩⟩, ⟨1678599000, ⟨-150, 60⟩⟩, ⟨1699158600, ⟨-210, 0⟩⟩,
    ⟨1710048600, ⟨-150, 60⟩⟩, ⟨1730608200, ⟨-210, 0⟩⟩, ⟨1741498200, ⟨-150, 60⟩⟩,
    ⟨1762057800, ⟨-210, 0⟩⟩, ⟨1772947800, ⟨-150, 60⟩⟩, ⟨1793507400, ⟨-210, 0⟩⟩,
    ⟨1805002200, ⟨-150, 60⟩⟩, ⟨1825561800, ⟨-210, 0⟩⟩, ⟨1836451800, ⟨-150, 60⟩⟩,
    ⟨1857011400, ⟨-210, 0⟩⟩, ⟨1867901400, ⟨-150, 60⟩⟩, ⟨1888461000, ⟨-210, 0⟩⟩,
    ⟨1899351000, ⟨-150, 60⟩⟩, ⟨1919910600, ⟨-210, 0⟩⟩, ⟨1930800600, ⟨-150, 60⟩⟩,
    ⟨1951360200, ⟨-210, 0⟩⟩, ⟨1962855000, ⟨-150, 60⟩⟩, ⟨1983414600, ⟨-210, 0⟩⟩,
    ⟨1994304600, ⟨-150, 60⟩⟩, ⟨2014864200, ⟨-210, 0⟩⟩, ⟨2025754200, ⟨-150, 60⟩⟩,
    ⟨2046313800, ⟨-210, 0⟩⟩, ⟨2057203800, ⟨-150, 60⟩⟩, ⟨2077763400, ⟨-210, 0⟩⟩,
    ⟨2088653400, ⟨-150, 60⟩⟩, ⟨2109213000, ⟨-210, 0⟩⟩, ⟨2120103000, ⟨-150, 60⟩⟩,
    ⟨2140662600, ⟨-210, 0⟩⟩],
   by decide +kernel⟩

end America
end Zone
end TypedInputs
