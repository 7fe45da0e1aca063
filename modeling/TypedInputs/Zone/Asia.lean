/-
# Zones of Asia

Each row is a transition: its start in UTC seconds since the start of 1970, then its regime: the
offset and the daylight saving in it, both in minutes. The regime in front of the rows is the
initial one.
-/

import TypedInputs.Zone.Rules

namespace TypedInputs
namespace Zone
namespace Asia

/-- The rules of `Asia/Kathmandu`. -/
def kathmandu : Rules :=
  ⟨⟨341, 0⟩,
   [⟨-1577943676, ⟨330, 0⟩⟩, ⟨504901800, ⟨345, 0⟩⟩],
   by decide +kernel⟩

/-- The rules of `Asia/Kolkata`. -/
def kolkata : Rules :=
  ⟨⟨353, 0⟩,
   [⟨-2147483648, ⟨321, 0⟩⟩, ⟨-2019705670, ⟨330, 0⟩⟩, ⟨-891581400, ⟨390, 60⟩⟩,
    ⟨-872058600, ⟨330, 0⟩⟩, ⟨-862637400, ⟨390, 60⟩⟩, ⟨-764145000, ⟨330, 0⟩⟩],
   by decide +kernel⟩

/-- The rules of `Asia/Pyongyang`. -/
def pyongyang : Rules :=
  ⟨⟨503, 0⟩,
   [⟨-1948782180, ⟨510, 0⟩⟩, ⟨-1830414600, ⟨540, 0⟩⟩, ⟨-768646800, ⟨540, 0⟩⟩,
    ⟨1439564400, ⟨510, 0⟩⟩, ⟨1525446000, ⟨540, 0⟩⟩],
   by decide +kernel⟩

/-- The rules of `Asia/Tokyo`. -/
def tokyo : Rules :=
  ⟨⟨559, 0⟩,
   [⟨-2147483648, ⟨540, 0⟩⟩, ⟨-683802000, ⟨600, 60⟩⟩, ⟨-672310800, ⟨540, 0⟩⟩,
    ⟨-654771600, ⟨600, 60⟩⟩, ⟨-640861200, ⟨540, 0⟩⟩, ⟨-620298000, ⟨600, 60⟩⟩,
    ⟨-609411600, ⟨540, 0⟩⟩, ⟨-588848400, ⟨600, 60⟩⟩, ⟨-577962000, ⟨540, 0⟩⟩],
   by decide +kernel⟩

end Asia
end Zone
end TypedInputs
