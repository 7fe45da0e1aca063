/-
# Zones of Pacific

Each row is a transition: its start in UTC seconds since the start of 1970, then its regime: the
offset and the daylight saving in it, both in minutes. The regime in front of the rows is the
initial one.
-/

import TypedInputs.Zone.Rules

namespace TypedInputs
namespace Zone
namespace Pacific

/-- The rules of `Pacific/Apia`. -/
def apia : Rules :=
  ⟨⟨753, 0⟩,
   [⟨-2147483648, ⟨-687, 0⟩⟩, ⟨-1861878784, ⟨-690, 0⟩⟩, ⟨-631110600, ⟨-660, 0⟩⟩,
    ⟨1285498800, ⟨-600, 60⟩⟩, ⟨1301752800, ⟨-660, 0⟩⟩, ⟨1316872800, ⟨-600, 60⟩⟩,
    ⟨1325239200, ⟨840, 60⟩⟩, ⟨1333202400, ⟨780, 0⟩⟩, ⟨1348927200, ⟨840, 60⟩⟩,
    ⟨1365256800, ⟨780, 0⟩⟩, ⟨1380376800, ⟨840, 60⟩⟩, ⟨1396706400, ⟨780, 0⟩⟩,
    ⟨1411826400, ⟨840, 60⟩⟩, ⟨1428156000, ⟨780, 0⟩⟩, ⟨1443276000, ⟨840, 60⟩⟩,
    ⟨1459605600, ⟨780, 0⟩⟩, ⟨1474725600, ⟨840, 60⟩⟩, ⟨1491055200, ⟨780, 0⟩⟩,
    ⟨1506175200, ⟨840, 60⟩⟩, ⟨1522504800, ⟨780, 0⟩⟩, ⟨1538229600, ⟨840, 60⟩⟩,
    ⟨1554559200, ⟨780, 0⟩⟩, ⟨1569679200, ⟨840, 60⟩⟩, ⟨1586008800, ⟨780, 0⟩⟩,
    ⟨1601128800, ⟨840, 60⟩⟩, ⟨1617458400, ⟨780, 0⟩⟩],
   by decide +kernel⟩

end Pacific
end Zone
end TypedInputs
