/-
# Zones of Africa

Each row is a transition: its start in UTC seconds since the start of 1970, then its regime: the
offset and the daylight saving in it, both in minutes. The regime in front of the rows is the
initial one.
-/

import TypedInputs.Zone.Rules

namespace TypedInputs
namespace Zone
namespace Africa

/-- The rules of `Africa/Casablanca`. -/
def casablanca : Rules :=
  ⟨⟨-30, 0⟩,
   [⟨-1773012580, ⟨0, 0⟩⟩, ⟨-956361600, ⟨60, 60⟩⟩, ⟨-950490000, ⟨0, 0⟩⟩, ⟨-942019200, ⟨60, 60⟩⟩,
    ⟨-761187600, ⟨0, 0⟩⟩, ⟨-617241600, ⟨60, 60⟩⟩, ⟨-605149200, ⟨0, 0⟩⟩, ⟨-81432000, ⟨60, 60⟩⟩,
    ⟨-71110800, ⟨0, 0⟩⟩, ⟨141264000, ⟨60, 60⟩⟩, ⟨147222000, ⟨0, 0⟩⟩, ⟨199756800, ⟨60, 60⟩⟩,
    ⟨207702000, ⟨0, 0⟩⟩, ⟨231292800, ⟨60, 60⟩⟩, ⟨244249200, ⟨0, 0⟩⟩, ⟨265507200, ⟨60, 60⟩⟩,
    ⟨271033200, ⟨0, 0⟩⟩, ⟨448243200, ⟨60, 0⟩⟩, ⟨504918000, ⟨0, 0⟩⟩, ⟨1212278400, ⟨60, 60⟩⟩,
    ⟨1220223600, ⟨0, 0⟩⟩, ⟨1243814400, ⟨60, 60⟩⟩, ⟨1250809200, ⟨0, 0⟩⟩, ⟨1272758400, ⟨60, 60⟩⟩,
    ⟨1281222000, ⟨0, 0⟩⟩, ⟨1301788800, ⟨60, 60⟩⟩, ⟨1312066800, ⟨0, 0⟩⟩, ⟨1335664800, ⟨60, 60⟩⟩,
    ⟨1342749600, ⟨0, 0⟩⟩, ⟨1345428000, ⟨60, 60⟩⟩, ⟨1348970400, ⟨0, 0⟩⟩, ⟨1367114400, ⟨60, 60⟩⟩,
    ⟨1373162400, ⟨0, 0⟩⟩, ⟨1376100000, ⟨60, 60⟩⟩, ⟨1382839200, ⟨0, 0⟩⟩, ⟨1396144800, ⟨60, 60⟩⟩,
    ⟨1403920800, ⟨0, 0⟩⟩, ⟨1406944800, ⟨60, 60⟩⟩, ⟨1414288800, ⟨0, 0⟩⟩, ⟨1427594400, ⟨60, 60⟩⟩,
    ⟨1434247200, ⟨0, 0⟩⟩, ⟨1437271200, ⟨60, 60⟩⟩, ⟨1445738400, ⟨0, 0⟩⟩, ⟨1459044000, ⟨60, 60⟩⟩,
    ⟨1465092000, ⟨0, 0⟩⟩, ⟨1468116000, ⟨60, 60⟩⟩, ⟨1477792800, ⟨0, 0⟩⟩, ⟨1490493600, ⟨60, 60⟩⟩,
    ⟨1495332000, ⟨0, 0⟩⟩, ⟨1498960800, ⟨60, 60⟩⟩, ⟨1509242400, ⟨0, 0⟩⟩, ⟨1521943200, ⟨60, 60⟩⟩,
    ⟨1526176800, ⟨0, 0⟩⟩, ⟨1529200800, ⟨60, 60⟩⟩, ⟨1540692000, ⟨60, 0⟩⟩, ⟨1557021600, ⟨0, -60⟩⟩,
    ⟨1560045600, ⟨60, 0⟩⟩, ⟨1587261600, ⟨0, -60⟩⟩, ⟨1590890400, ⟨60, 0⟩⟩, ⟨1618106400, ⟨0, -60⟩⟩,
    ⟨1621130400, ⟨60, 0⟩⟩, ⟨1648346400, ⟨0, -60⟩⟩, ⟨1651975200, ⟨60, 0⟩⟩, ⟨1679191200, ⟨0, -60⟩⟩,
    ⟨1682215200, ⟨60, 0⟩⟩, ⟨1710036000, ⟨0, -60⟩⟩, ⟨1713060000, ⟨60, 0⟩⟩, ⟨1740276000, ⟨0, -60⟩⟩,
    ⟨1743904800, ⟨60, 0⟩⟩, ⟨1771120800, ⟨0, -60⟩⟩, ⟨1774144800, ⟨60, 0⟩⟩, ⟨1789866000, ⟨0, 0⟩⟩],
   by decide +kernel⟩

/-- The rules of `Africa/Monrovia`. -/
def monrovia : Rules :=
  ⟨⟨-43, 0⟩,
   [⟨-2147483648, ⟨-43, 0⟩⟩, ⟨-1604359012, ⟨-44, 0⟩⟩, ⟨63593070, ⟨0, 0⟩⟩],
   by decide +kernel⟩

end Africa
end Zone
end TypedInputs
