/-
# Zones of Europe

Each row is a transition: its start in UTC seconds since the start of 1970, then its regime: the
offset and the daylight saving in it, both in minutes. The regime in front of the rows is the
initial one.
-/

import TypedInputs.Zone.Rules

namespace TypedInputs
namespace Zone
namespace Europe

/-- The rules of `Europe/Dublin`. -/
def dublin : Rules :=
  ⟨⟨-25, 0⟩,
   [⟨-2147483648, ⟨-25, 0⟩⟩, ⟨-1691962479, ⟨35, 60⟩⟩, ⟨-1680471279, ⟨0, 0⟩⟩,
    ⟨-1664143200, ⟨60, 60⟩⟩, ⟨-1650146400, ⟨0, 0⟩⟩, ⟨-1633903200, ⟨60, 60⟩⟩,
    ⟨-1617487200, ⟨0, 0⟩⟩, ⟨-1601848800, ⟨60, 60⟩⟩, ⟨-1586037600, ⟨0, 0⟩⟩,
    ⟨-1570399200, ⟨60, 60⟩⟩, ⟨-1552168800, ⟨0, 0⟩⟩, ⟨-1538344800, ⟨60, 60⟩⟩,
    ⟨-1522533600, ⟨0, 0⟩⟩, ⟨-1507500000, ⟨60, 60⟩⟩, ⟨-1490565600, ⟨0, 0⟩⟩,
    ⟨-1473631200, ⟨60, 60⟩⟩, ⟨-1460930400, ⟨0, 0⟩⟩, ⟨-1442786400, ⟨60, 60⟩⟩,
    ⟨-1428876000, ⟨0, 0⟩⟩, ⟨-1410732000, ⟨60, 60⟩⟩, ⟨-1397426400, ⟨0, 0⟩⟩,
    ⟨-1379282400, ⟨60, 60⟩⟩, ⟨-1364767200, ⟨0, 0⟩⟩, ⟨-1348437600, ⟨60, 60⟩⟩,
    ⟨-1333317600, ⟨0, 0⟩⟩, ⟨-1315778400, ⟨60, 60⟩⟩, ⟨-1301263200, ⟨0, 0⟩⟩,
    ⟨-1284328800, ⟨60, 60⟩⟩, ⟨-1269813600, ⟨0, 0⟩⟩, ⟨-1253484000, ⟨60, 60⟩⟩,
    ⟨-1238364000, ⟨0, 0⟩⟩, ⟨-1221429600, ⟨60, 60⟩⟩, ⟨-1206914400, ⟨0, 0⟩⟩,
    ⟨-1189980000, ⟨60, 60⟩⟩, ⟨-1175464800, ⟨0, 0⟩⟩, ⟨-1159135200, ⟨60, 60⟩⟩,
    ⟨-1143410400, ⟨0, 0⟩⟩, ⟨-1126476000, ⟨60, 60⟩⟩, ⟨-1111960800, ⟨0, 0⟩⟩,
    ⟨-1095631200, ⟨60, 60⟩⟩, ⟨-1080511200, ⟨0, 0⟩⟩, ⟨-1063576800, ⟨60, 60⟩⟩,
    ⟨-1049061600, ⟨0, 0⟩⟩, ⟨-1032127200, ⟨60, 60⟩⟩, ⟨-1017612000, ⟨0, 0⟩⟩,
    ⟨-1001282400, ⟨60, 60⟩⟩, ⟨-986162400, ⟨0, 0⟩⟩, ⟨-969228000, ⟨60, 60⟩⟩, ⟨-950479200, ⟨0, 0⟩⟩,
    ⟨-942012000, ⟨60, 60⟩⟩, ⟨-733356000, ⟨0, 0⟩⟩, ⟨-719445600, ⟨60, 60⟩⟩, ⟨-699487200, ⟨0, 0⟩⟩,
    ⟨-684972000, ⟨60, 60⟩⟩, ⟨-668037600, ⟨0, 0⟩⟩, ⟨-654732000, ⟨60, 60⟩⟩, ⟨-636588000, ⟨0, 0⟩⟩,
    ⟨-622072800, ⟨60, 60⟩⟩, ⟨-605743200, ⟨0, 0⟩⟩, ⟨-590623200, ⟨60, 60⟩⟩, ⟨-574293600, ⟨0, 0⟩⟩,
    ⟨-558568800, ⟨60, 60⟩⟩, ⟨-542239200, ⟨0, 0⟩⟩, ⟨-527119200, ⟨60, 60⟩⟩, ⟨-512604000, ⟨0, 0⟩⟩,
    ⟨-496274400, ⟨60, 60⟩⟩, ⟨-481154400, ⟨0, 0⟩⟩, ⟨-464220000, ⟨60, 60⟩⟩, ⟨-449704800, ⟨0, 0⟩⟩,
    ⟨-432165600, ⟨60, 60⟩⟩, ⟨-417650400, ⟨0, 0⟩⟩, ⟨-401320800, ⟨60, 60⟩⟩, ⟨-386200800, ⟨0, 0⟩⟩,
    ⟨-369266400, ⟨60, 60⟩⟩, ⟨-354751200, ⟨0, 0⟩⟩, ⟨-337816800, ⟨60, 60⟩⟩, ⟨-323301600, ⟨0, 0⟩⟩,
    ⟨-306972000, ⟨60, 60⟩⟩, ⟨-291852000, ⟨0, 0⟩⟩, ⟨-276732000, ⟨60, 60⟩⟩, ⟨-257983200, ⟨0, 0⟩⟩,
    ⟨-245282400, ⟨60, 60⟩⟩, ⟨-226533600, ⟨0, 0⟩⟩, ⟨-213228000, ⟨60, 60⟩⟩, ⟨-195084000, ⟨0, 0⟩⟩,
    ⟨-182383200, ⟨60, 60⟩⟩, ⟨-163634400, ⟨0, 0⟩⟩, ⟨-150933600, ⟨60, 60⟩⟩, ⟨-132184800, ⟨0, 0⟩⟩,
    ⟨-119484000, ⟨60, 60⟩⟩, ⟨-100735200, ⟨0, 0⟩⟩, ⟨-88034400, ⟨60, 60⟩⟩, ⟨-68680800, ⟨0, 0⟩⟩,
    ⟨-59004000, ⟨60, 60⟩⟩, ⟨-37242000, ⟨60, 0⟩⟩, ⟨57722400, ⟨0, -60⟩⟩, ⟨69818400, ⟨60, 0⟩⟩,
    ⟨89172000, ⟨0, -60⟩⟩, ⟨101268000, ⟨60, 0⟩⟩, ⟨120621600, ⟨0, -60⟩⟩, ⟨132717600, ⟨60, 0⟩⟩,
    ⟨152071200, ⟨0, -60⟩⟩, ⟨164167200, ⟨60, 0⟩⟩, ⟨183520800, ⟨0, -60⟩⟩, ⟨196221600, ⟨60, 0⟩⟩,
    ⟨214970400, ⟨0, -60⟩⟩, ⟨227671200, ⟨60, 0⟩⟩, ⟨246420000, ⟨0, -60⟩⟩, ⟨259120800, ⟨60, 0⟩⟩,
    ⟨278474400, ⟨0, -60⟩⟩, ⟨290570400, ⟨60, 0⟩⟩, ⟨309924000, ⟨0, -60⟩⟩, ⟨322020000, ⟨60, 0⟩⟩,
    ⟨341373600, ⟨0, -60⟩⟩, ⟨354675600, ⟨60, 0⟩⟩, ⟨372819600, ⟨0, -60⟩⟩, ⟨386125200, ⟨60, 0⟩⟩,
    ⟨404269200, ⟨0, -60⟩⟩, ⟨417574800, ⟨60, 0⟩⟩, ⟨435718800, ⟨0, -60⟩⟩, ⟨449024400, ⟨60, 0⟩⟩,
    ⟨467773200, ⟨0, -60⟩⟩, ⟨481078800, ⟨60, 0⟩⟩, ⟨499222800, ⟨0, -60⟩⟩, ⟨512528400, ⟨60, 0⟩⟩,
    ⟨530672400, ⟨0, -60⟩⟩, ⟨543978000, ⟨60, 0⟩⟩, ⟨562122000, ⟨0, -60⟩⟩, ⟨575427600, ⟨60, 0⟩⟩,
    ⟨593571600, ⟨0, -60⟩⟩, ⟨606877200, ⟨60, 0⟩⟩, ⟨625626000, ⟨0, -60⟩⟩, ⟨638326800, ⟨60, 0⟩⟩,
    ⟨657075600, ⟨0, -60⟩⟩, ⟨670381200, ⟨60, 0⟩⟩, ⟨688525200, ⟨0, -60⟩⟩, ⟨701830800, ⟨60, 0⟩⟩,
    ⟨719974800, ⟨0, -60⟩⟩, ⟨733280400, ⟨60, 0⟩⟩, ⟨751424400, ⟨0, -60⟩⟩, ⟨764730000, ⟨60, 0⟩⟩,
    ⟨782874000, ⟨0, -60⟩⟩, ⟨796179600, ⟨60, 0⟩⟩, ⟨814323600, ⟨0, -60⟩⟩, ⟨828234000, ⟨60, 0⟩⟩,
    ⟨846378000, ⟨0, -60⟩⟩, ⟨859683600, ⟨60, 0⟩⟩, ⟨877827600, ⟨0, -60⟩⟩, ⟨891133200, ⟨60, 0⟩⟩,
    ⟨909277200, ⟨0, -60⟩⟩, ⟨922582800, ⟨60, 0⟩⟩, ⟨941331600, ⟨0, -60⟩⟩, ⟨954032400, ⟨60, 0⟩⟩,
    ⟨972781200, ⟨0, -60⟩⟩, ⟨985482000, ⟨60, 0⟩⟩, ⟨1004230800, ⟨0, -60⟩⟩, ⟨1017536400, ⟨60, 0⟩⟩,
    ⟨1035680400, ⟨0, -60⟩⟩, ⟨1048986000, ⟨60, 0⟩⟩, ⟨1067130000, ⟨0, -60⟩⟩, ⟨1080435600, ⟨60, 0⟩⟩,
    ⟨1099184400, ⟨0, -60⟩⟩, ⟨1111885200, ⟨60, 0⟩⟩, ⟨1130634000, ⟨0, -60⟩⟩, ⟨1143334800, ⟨60, 0⟩⟩,
    ⟨1162083600, ⟨0, -60⟩⟩, ⟨1174784400, ⟨60, 0⟩⟩, ⟨1193533200, ⟨0, -60⟩⟩, ⟨1206838800, ⟨60, 0⟩⟩,
    ⟨1224982800, ⟨0, -60⟩⟩, ⟨1238288400, ⟨60, 0⟩⟩, ⟨1256432400, ⟨0, -60⟩⟩, ⟨1269738000, ⟨60, 0⟩⟩,
    ⟨1288486800, ⟨0, -60⟩⟩, ⟨1301187600, ⟨60, 0⟩⟩, ⟨1319936400, ⟨0, -60⟩⟩, ⟨1332637200, ⟨60, 0⟩⟩,
    ⟨1351386000, ⟨0, -60⟩⟩, ⟨1364691600, ⟨60, 0⟩⟩, ⟨1382835600, ⟨0, -60⟩⟩, ⟨1396141200, ⟨60, 0⟩⟩,
    ⟨1414285200, ⟨0, -60⟩⟩, ⟨1427590800, ⟨60, 0⟩⟩, ⟨1445734800, ⟨0, -60⟩⟩, ⟨1459040400, ⟨60, 0⟩⟩,
    ⟨1477789200, ⟨0, -60⟩⟩, ⟨1490490000, ⟨60, 0⟩⟩, ⟨1509238800, ⟨0, -60⟩⟩, ⟨1521939600, ⟨60, 0⟩⟩,
    ⟨1540688400, ⟨0, -60⟩⟩, ⟨1553994000, ⟨60, 0⟩⟩, ⟨1572138000, ⟨0, -60⟩⟩, ⟨1585443600, ⟨60, 0⟩⟩,
    ⟨1603587600, ⟨0, -60⟩⟩, ⟨1616893200, ⟨60, 0⟩⟩, ⟨1635642000, ⟨0, -60⟩⟩, ⟨1648342800, ⟨60, 0⟩⟩,
    ⟨1667091600, ⟨0, -60⟩⟩, ⟨1679792400, ⟨60, 0⟩⟩, ⟨1698541200, ⟨0, -60⟩⟩, ⟨1711846800, ⟨60, 0⟩⟩,
    ⟨1729990800, ⟨0, -60⟩⟩, ⟨1743296400, ⟨60, 0⟩⟩, ⟨1761440400, ⟨0, -60⟩⟩, ⟨1774746000, ⟨60, 0⟩⟩,
    ⟨1792890000, ⟨0, -60⟩⟩, ⟨1806195600, ⟨60, 0⟩⟩, ⟨1824944400, ⟨0, -60⟩⟩, ⟨1837645200, ⟨60, 0⟩⟩,
    ⟨1856394000, ⟨0, -60⟩⟩, ⟨1869094800, ⟨60, 0⟩⟩, ⟨1887843600, ⟨0, -60⟩⟩, ⟨1901149200, ⟨60, 0⟩⟩,
    ⟨1919293200, ⟨0, -60⟩⟩, ⟨1932598800, ⟨60, 0⟩⟩, ⟨1950742800, ⟨0, -60⟩⟩, ⟨1964048400, ⟨60, 0⟩⟩,
    ⟨1982797200, ⟨0, -60⟩⟩, ⟨1995498000, ⟨60, 0⟩⟩, ⟨2014246800, ⟨0, -60⟩⟩, ⟨2026947600, ⟨60, 0⟩⟩,
    ⟨2045696400, ⟨0, -60⟩⟩, ⟨2058397200, ⟨60, 0⟩⟩, ⟨2077146000, ⟨0, -60⟩⟩, ⟨2090451600, ⟨60, 0⟩⟩,
    ⟨2108595600, ⟨0, -60⟩⟩, ⟨2121901200, ⟨60, 0⟩⟩, ⟨2140045200, ⟨0, -60⟩⟩],
   by decide +kernel⟩

/-- The rules of `Europe/London`. -/
def london : Rules :=
  ⟨⟨-1, 0⟩,
   [⟨-2147483648, ⟨0, 0⟩⟩, ⟨-1691964000, ⟨60, 60⟩⟩, ⟨-1680472800, ⟨0, 0⟩⟩,
    ⟨-1664143200, ⟨60, 60⟩⟩, ⟨-1650146400, ⟨0, 0⟩⟩, ⟨-1633903200, ⟨60, 60⟩⟩,
    ⟨-1617487200, ⟨0, 0⟩⟩, ⟨-1601848800, ⟨60, 60⟩⟩, ⟨-1586037600, ⟨0, 0⟩⟩,
    ⟨-1570399200, ⟨60, 60⟩⟩, ⟨-1552168800, ⟨0, 0⟩⟩, ⟨-1538344800, ⟨60, 60⟩⟩,
    ⟨-1522533600, ⟨0, 0⟩⟩, ⟨-1507500000, ⟨60, 60⟩⟩, ⟨-1490565600, ⟨0, 0⟩⟩,
    ⟨-1473631200, ⟨60, 60⟩⟩, ⟨-1460930400, ⟨0, 0⟩⟩, ⟨-1442786400, ⟨60, 60⟩⟩,
    ⟨-1428876000, ⟨0, 0⟩⟩, ⟨-1410732000, ⟨60, 60⟩⟩, ⟨-1396216800, ⟨0, 0⟩⟩,
    ⟨-1379282400, ⟨60, 60⟩⟩, ⟨-1364767200, ⟨0, 0⟩⟩, ⟨-1348437600, ⟨60, 60⟩⟩,
    ⟨-1333317600, ⟨0, 0⟩⟩, ⟨-1315778400, ⟨60, 60⟩⟩, ⟨-1301263200, ⟨0, 0⟩⟩,
    ⟨-1284328800, ⟨60, 60⟩⟩, ⟨-1269813600, ⟨0, 0⟩⟩, ⟨-1253484000, ⟨60, 60⟩⟩,
    ⟨-1238364000, ⟨0, 0⟩⟩, ⟨-1221429600, ⟨60, 60⟩⟩, ⟨-1206914400, ⟨0, 0⟩⟩,
    ⟨-1189980000, ⟨60, 60⟩⟩, ⟨-1175464800, ⟨0, 0⟩⟩, ⟨-1159135200, ⟨60, 60⟩⟩,
    ⟨-1143410400, ⟨0, 0⟩⟩, ⟨-1126476000, ⟨60, 60⟩⟩, ⟨-1111960800, ⟨0, 0⟩⟩,
    ⟨-1095631200, ⟨60, 60⟩⟩, ⟨-1080511200, ⟨0, 0⟩⟩, ⟨-1063576800, ⟨60, 60⟩⟩,
    ⟨-1049061600, ⟨0, 0⟩⟩, ⟨-1032127200, ⟨60, 60⟩⟩, ⟨-1017612000, ⟨0, 0⟩⟩,
    ⟨-1001282400, ⟨60, 60⟩⟩, ⟨-986162400, ⟨0, 0⟩⟩, ⟨-969228000, ⟨60, 60⟩⟩, ⟨-950479200, ⟨0, 0⟩⟩,
    ⟨-942012000, ⟨60, 60⟩⟩, ⟨-904518000, ⟨120, 120⟩⟩, ⟨-896050800, ⟨60, 60⟩⟩,
    ⟨-875487600, ⟨120, 120⟩⟩, ⟨-864601200, ⟨60, 60⟩⟩, ⟨-844038000, ⟨120, 120⟩⟩,
    ⟨-832546800, ⟨60, 60⟩⟩, ⟨-812588400, ⟨120, 120⟩⟩, ⟨-798073200, ⟨60, 60⟩⟩,
    ⟨-781052400, ⟨120, 120⟩⟩, ⟨-772066800, ⟨60, 60⟩⟩, ⟨-764805600, ⟨0, 0⟩⟩,
    ⟨-748476000, ⟨60, 60⟩⟩, ⟨-733356000, ⟨0, 0⟩⟩, ⟨-719445600, ⟨60, 60⟩⟩,
    ⟨-717030000, ⟨120, 120⟩⟩, ⟨-706748400, ⟨60, 60⟩⟩, ⟨-699487200, ⟨0, 0⟩⟩,
    ⟨-687996000, ⟨60, 60⟩⟩, ⟨-668037600, ⟨0, 0⟩⟩, ⟨-654732000, ⟨60, 60⟩⟩, ⟨-636588000, ⟨0, 0⟩⟩,
    ⟨-622072800, ⟨60, 60⟩⟩, ⟨-605743200, ⟨0, 0⟩⟩, ⟨-590623200, ⟨60, 60⟩⟩, ⟨-574293600, ⟨0, 0⟩⟩,
    ⟨-558568800, ⟨60, 60⟩⟩, ⟨-542239200, ⟨0, 0⟩⟩, ⟨-527119200, ⟨60, 60⟩⟩, ⟨-512604000, ⟨0, 0⟩⟩,
    ⟨-496274400, ⟨60, 60⟩⟩, ⟨-481154400, ⟨0, 0⟩⟩, ⟨-464220000, ⟨60, 60⟩⟩, ⟨-449704800, ⟨0, 0⟩⟩,
    ⟨-432165600, ⟨60, 60⟩⟩, ⟨-417650400, ⟨0, 0⟩⟩, ⟨-401320800, ⟨60, 60⟩⟩, ⟨-386200800, ⟨0, 0⟩⟩,
    ⟨-369266400, ⟨60, 60⟩⟩, ⟨-354751200, ⟨0, 0⟩⟩, ⟨-337816800, ⟨60, 60⟩⟩, ⟨-323301600, ⟨0, 0⟩⟩,
    ⟨-306972000, ⟨60, 60⟩⟩, ⟨-291852000, ⟨0, 0⟩⟩, ⟨-276732000, ⟨60, 60⟩⟩, ⟨-257983200, ⟨0, 0⟩⟩,
    ⟨-245282400, ⟨60, 60⟩⟩, ⟨-226533600, ⟨0, 0⟩⟩, ⟨-213228000, ⟨60, 60⟩⟩, ⟨-195084000, ⟨0, 0⟩⟩,
    ⟨-182383200, ⟨60, 60⟩⟩, ⟨-163634400, ⟨0, 0⟩⟩, ⟨-150933600, ⟨60, 60⟩⟩, ⟨-132184800, ⟨0, 0⟩⟩,
    ⟨-119484000, ⟨60, 60⟩⟩, ⟨-100735200, ⟨0, 0⟩⟩, ⟨-88034400, ⟨60, 60⟩⟩, ⟨-68680800, ⟨0, 0⟩⟩,
    ⟨-59004000, ⟨60, 60⟩⟩, ⟨-37242000, ⟨60, 0⟩⟩, ⟨57722400, ⟨0, 0⟩⟩, ⟨69818400, ⟨60, 60⟩⟩,
    ⟨89172000, ⟨0, 0⟩⟩, ⟨101268000, ⟨60, 60⟩⟩, ⟨120621600, ⟨0, 0⟩⟩, ⟨132717600, ⟨60, 60⟩⟩,
    ⟨152071200, ⟨0, 0⟩⟩, ⟨164167200, ⟨60, 60⟩⟩, ⟨183520800, ⟨0, 0⟩⟩, ⟨196221600, ⟨60, 60⟩⟩,
    ⟨214970400, ⟨0, 0⟩⟩, ⟨227671200, ⟨60, 60⟩⟩, ⟨246420000, ⟨0, 0⟩⟩, ⟨259120800, ⟨60, 60⟩⟩,
    ⟨278474400, ⟨0, 0⟩⟩, ⟨290570400, ⟨60, 60⟩⟩, ⟨309924000, ⟨0, 0⟩⟩, ⟨322020000, ⟨60, 60⟩⟩,
    ⟨341373600, ⟨0, 0⟩⟩, ⟨354675600, ⟨60, 60⟩⟩, ⟨372819600, ⟨0, 0⟩⟩, ⟨386125200, ⟨60, 60⟩⟩,
    ⟨404269200, ⟨0, 0⟩⟩, ⟨417574800, ⟨60, 60⟩⟩, ⟨435718800, ⟨0, 0⟩⟩, ⟨449024400, ⟨60, 60⟩⟩,
    ⟨467773200, ⟨0, 0⟩⟩, ⟨481078800, ⟨60, 60⟩⟩, ⟨499222800, ⟨0, 0⟩⟩, ⟨512528400, ⟨60, 60⟩⟩,
    ⟨530672400, ⟨0, 0⟩⟩, ⟨543978000, ⟨60, 60⟩⟩, ⟨562122000, ⟨0, 0⟩⟩, ⟨575427600, ⟨60, 60⟩⟩,
    ⟨593571600, ⟨0, 0⟩⟩, ⟨606877200, ⟨60, 60⟩⟩, ⟨625626000, ⟨0, 0⟩⟩, ⟨638326800, ⟨60, 60⟩⟩,
    ⟨657075600, ⟨0, 0⟩⟩, ⟨670381200, ⟨60, 60⟩⟩, ⟨688525200, ⟨0, 0⟩⟩, ⟨701830800, ⟨60, 60⟩⟩,
    ⟨719974800, ⟨0, 0⟩⟩, ⟨733280400, ⟨60, 60⟩⟩, ⟨751424400, ⟨0, 0⟩⟩, ⟨764730000, ⟨60, 60⟩⟩,
    ⟨782874000, ⟨0, 0⟩⟩, ⟨796179600, ⟨60, 60⟩⟩, ⟨814323600, ⟨0, 0⟩⟩, ⟨828234000, ⟨60, 60⟩⟩,
    ⟨846378000, ⟨0, 0⟩⟩, ⟨859683600, ⟨60, 60⟩⟩, ⟨877827600, ⟨0, 0⟩⟩, ⟨891133200, ⟨60, 60⟩⟩,
    ⟨909277200, ⟨0, 0⟩⟩, ⟨922582800, ⟨60, 60⟩⟩, ⟨941331600, ⟨0, 0⟩⟩, ⟨954032400, ⟨60, 60⟩⟩,
    ⟨972781200, ⟨0, 0⟩⟩, ⟨985482000, ⟨60, 60⟩⟩, ⟨1004230800, ⟨0, 0⟩⟩, ⟨1017536400, ⟨60, 60⟩⟩,
    ⟨1035680400, ⟨0, 0⟩⟩, ⟨1048986000, ⟨60, 60⟩⟩, ⟨1067130000, ⟨0, 0⟩⟩, ⟨1080435600, ⟨60, 60⟩⟩,
    ⟨1099184400, ⟨0, 0⟩⟩, ⟨1111885200, ⟨60, 60⟩⟩, ⟨1130634000, ⟨0, 0⟩⟩, ⟨1143334800, ⟨60, 60⟩⟩,
    ⟨1162083600, ⟨0, 0⟩⟩, ⟨1174784400, ⟨60, 60⟩⟩, ⟨1193533200, ⟨0, 0⟩⟩, ⟨1206838800, ⟨60, 60⟩⟩,
    ⟨1224982800, ⟨0, 0⟩⟩, ⟨1238288400, ⟨60, 60⟩⟩, ⟨1256432400, ⟨0, 0⟩⟩, ⟨1269738000, ⟨60, 60⟩⟩,
    ⟨1288486800, ⟨0, 0⟩⟩, ⟨1301187600, ⟨60, 60⟩⟩, ⟨1319936400, ⟨0, 0⟩⟩, ⟨1332637200, ⟨60, 60⟩⟩,
    ⟨1351386000, ⟨0, 0⟩⟩, ⟨1364691600, ⟨60, 60⟩⟩, ⟨1382835600, ⟨0, 0⟩⟩, ⟨1396141200, ⟨60, 60⟩⟩,
    ⟨1414285200, ⟨0, 0⟩⟩, ⟨1427590800, ⟨60, 60⟩⟩, ⟨1445734800, ⟨0, 0⟩⟩, ⟨1459040400, ⟨60, 60⟩⟩,
    ⟨1477789200, ⟨0, 0⟩⟩, ⟨1490490000, ⟨60, 60⟩⟩, ⟨1509238800, ⟨0, 0⟩⟩, ⟨1521939600, ⟨60, 60⟩⟩,
    ⟨1540688400, ⟨0, 0⟩⟩, ⟨1553994000, ⟨60, 60⟩⟩, ⟨1572138000, ⟨0, 0⟩⟩, ⟨1585443600, ⟨60, 60⟩⟩,
    ⟨1603587600, ⟨0, 0⟩⟩, ⟨1616893200, ⟨60, 60⟩⟩, ⟨1635642000, ⟨0, 0⟩⟩, ⟨1648342800, ⟨60, 60⟩⟩,
    ⟨1667091600, ⟨0, 0⟩⟩, ⟨1679792400, ⟨60, 60⟩⟩, ⟨1698541200, ⟨0, 0⟩⟩, ⟨1711846800, ⟨60, 60⟩⟩,
    ⟨1729990800, ⟨0, 0⟩⟩, ⟨1743296400, ⟨60, 60⟩⟩, ⟨1761440400, ⟨0, 0⟩⟩, ⟨1774746000, ⟨60, 60⟩⟩,
    ⟨1792890000, ⟨0, 0⟩⟩, ⟨1806195600, ⟨60, 60⟩⟩, ⟨1824944400, ⟨0, 0⟩⟩, ⟨1837645200, ⟨60, 60⟩⟩,
    ⟨1856394000, ⟨0, 0⟩⟩, ⟨1869094800, ⟨60, 60⟩⟩, ⟨1887843600, ⟨0, 0⟩⟩, ⟨1901149200, ⟨60, 60⟩⟩,
    ⟨1919293200, ⟨0, 0⟩⟩, ⟨1932598800, ⟨60, 60⟩⟩, ⟨1950742800, ⟨0, 0⟩⟩, ⟨1964048400, ⟨60, 60⟩⟩,
    ⟨1982797200, ⟨0, 0⟩⟩, ⟨1995498000, ⟨60, 60⟩⟩, ⟨2014246800, ⟨0, 0⟩⟩, ⟨2026947600, ⟨60, 60⟩⟩,
    ⟨2045696400, ⟨0, 0⟩⟩, ⟨2058397200, ⟨60, 60⟩⟩, ⟨2077146000, ⟨0, 0⟩⟩, ⟨2090451600, ⟨60, 60⟩⟩,
    ⟨2108595600, ⟨0, 0⟩⟩, ⟨2121901200, ⟨60, 60⟩⟩, ⟨2140045200, ⟨0, 0⟩⟩],
   by decide +kernel⟩

/-- The rules of `Europe/Paris`. -/
def paris : Rules :=
  ⟨⟨9, 0⟩,
   [⟨-2147483648, ⟨9, 0⟩⟩, ⟨-1855958961, ⟨0, 0⟩⟩, ⟨-1689814800, ⟨60, 60⟩⟩, ⟨-1680397200, ⟨0, 0⟩⟩,
    ⟨-1665363600, ⟨60, 60⟩⟩, ⟨-1648342800, ⟨0, 0⟩⟩, ⟨-1635123600, ⟨60, 60⟩⟩,
    ⟨-1616893200, ⟨0, 0⟩⟩, ⟨-1604278800, ⟨60, 60⟩⟩, ⟨-1585443600, ⟨0, 0⟩⟩,
    ⟨-1574038800, ⟨60, 60⟩⟩, ⟨-1552266000, ⟨0, 0⟩⟩, ⟨-1539997200, ⟨60, 60⟩⟩,
    ⟨-1520557200, ⟨0, 0⟩⟩, ⟨-1507510800, ⟨60, 60⟩⟩, ⟨-1490576400, ⟨0, 0⟩⟩,
    ⟨-1470618000, ⟨60, 60⟩⟩, ⟨-1459126800, ⟨0, 0⟩⟩, ⟨-1444006800, ⟨60, 60⟩⟩,
    ⟨-1427677200, ⟨0, 0⟩⟩, ⟨-1411952400, ⟨60, 60⟩⟩, ⟨-1396227600, ⟨0, 0⟩⟩,
    ⟨-1379293200, ⟨60, 60⟩⟩, ⟨-1364778000, ⟨0, 0⟩⟩, ⟨-1348448400, ⟨60, 60⟩⟩,
    ⟨-1333328400, ⟨0, 0⟩⟩, ⟨-1316394000, ⟨60, 60⟩⟩, ⟨-1301274000, ⟨0, 0⟩⟩,
    ⟨-1284339600, ⟨60, 60⟩⟩, ⟨-1269824400, ⟨0, 0⟩⟩, ⟨-1253494800, ⟨60, 60⟩⟩,
    ⟨-1238374800, ⟨0, 0⟩⟩, ⟨-1221440400, ⟨60, 60⟩⟩, ⟨-1206925200, ⟨0, 0⟩⟩,
    ⟨-1191200400, ⟨60, 60⟩⟩, ⟨-1175475600, ⟨0, 0⟩⟩, ⟨-1160355600, ⟨60, 60⟩⟩,
    ⟨-1143421200, ⟨0, 0⟩⟩, ⟨-1127696400, ⟨60, 60⟩⟩, ⟨-1111971600, ⟨0, 0⟩⟩,
    ⟨-1096851600, ⟨60, 60⟩⟩, ⟨-1080522000, ⟨0, 0⟩⟩, ⟨-1063587600, ⟨60, 60⟩⟩,
    ⟨-1049072400, ⟨0, 0⟩⟩, ⟨-1033347600, ⟨60, 60⟩⟩, ⟨-1017622800, ⟨0, 0⟩⟩,
    ⟨-1002502800, ⟨60, 60⟩⟩, ⟨-986173200, ⟨0, 0⟩⟩, ⟨-969238800, ⟨60, 60⟩⟩, ⟨-950490000, ⟨0, 0⟩⟩,
    ⟨-942012000, ⟨60, 60⟩⟩, ⟨-932436000, ⟨120, 120⟩⟩, ⟨-857257200, ⟨60, 0⟩⟩,
    ⟨-844556400, ⟨120, 60⟩⟩, ⟨-828226800, ⟨60, 0⟩⟩, ⟨-812502000, ⟨120, 60⟩⟩,
    ⟨-800071200, ⟨120, 60⟩⟩, ⟨-796266000, ⟨60, 0⟩⟩, ⟨-781052400, ⟨120, 60⟩⟩,
    ⟨-766623600, ⟨60, 0⟩⟩, ⟨196819200, ⟨120, 60⟩⟩, ⟨212540400, ⟨60, 0⟩⟩, ⟨228877200, ⟨120, 60⟩⟩,
    ⟨243997200, ⟨60, 0⟩⟩, ⟨260326800, ⟨120, 60⟩⟩, ⟨276051600, ⟨60, 0⟩⟩, ⟨291776400, ⟨120, 60⟩⟩,
    ⟨307501200, ⟨60, 0⟩⟩, ⟨323830800, ⟨120, 60⟩⟩, ⟨338950800, ⟨60, 0⟩⟩, ⟨354675600, ⟨120, 60⟩⟩,
    ⟨370400400, ⟨60, 0⟩⟩, ⟨386125200, ⟨120, 60⟩⟩, ⟨401850000, ⟨60, 0⟩⟩, ⟨417574800, ⟨120, 60⟩⟩,
    ⟨433299600, ⟨60, 0⟩⟩, ⟨449024400, ⟨120, 60⟩⟩, ⟨465354000, ⟨60, 0⟩⟩, ⟨481078800, ⟨120, 60⟩⟩,
    ⟨496803600, ⟨60, 0⟩⟩, ⟨512528400, ⟨120, 60⟩⟩, ⟨528253200, ⟨60, 0⟩⟩, ⟨543978000, ⟨120, 60⟩⟩,
    ⟨559702800, ⟨60, 0⟩⟩, ⟨575427600, ⟨120, 60⟩⟩, ⟨591152400, ⟨60, 0⟩⟩, ⟨606877200, ⟨120, 60⟩⟩,
    ⟨622602000, ⟨60, 0⟩⟩, ⟨638326800, ⟨120, 60⟩⟩, ⟨654656400, ⟨60, 0⟩⟩, ⟨670381200, ⟨120, 60⟩⟩,
    ⟨686106000, ⟨60, 0⟩⟩, ⟨701830800, ⟨120, 60⟩⟩, ⟨717555600, ⟨60, 0⟩⟩, ⟨733280400, ⟨120, 60⟩⟩,
    ⟨749005200, ⟨60, 0⟩⟩, ⟨764730000, ⟨120, 60⟩⟩, ⟨780454800, ⟨60, 0⟩⟩, ⟨796179600, ⟨120, 60⟩⟩,
    ⟨811904400, ⟨60, 0⟩⟩, ⟨828234000, ⟨120, 60⟩⟩, ⟨846378000, ⟨60, 0⟩⟩, ⟨859683600, ⟨120, 60⟩⟩,
    ⟨877827600, ⟨60, 0⟩⟩, ⟨891133200, ⟨120, 60⟩⟩, ⟨909277200, ⟨60, 0⟩⟩, ⟨922582800, ⟨120, 60⟩⟩,
    ⟨941331600, ⟨60, 0⟩⟩, ⟨954032400, ⟨120, 60⟩⟩, ⟨972781200, ⟨60, 0⟩⟩, ⟨985482000, ⟨120, 60⟩⟩,
    ⟨1004230800, ⟨60, 0⟩⟩, ⟨1017536400, ⟨120, 60⟩⟩, ⟨1035680400, ⟨60, 0⟩⟩,
    ⟨1048986000, ⟨120, 60⟩⟩, ⟨1067130000, ⟨60, 0⟩⟩, ⟨1080435600, ⟨120, 60⟩⟩,
    ⟨1099184400, ⟨60, 0⟩⟩, ⟨1111885200, ⟨120, 60⟩⟩, ⟨1130634000, ⟨60, 0⟩⟩,
    ⟨1143334800, ⟨120, 60⟩⟩, ⟨1162083600, ⟨60, 0⟩⟩, ⟨1174784400, ⟨120, 60⟩⟩,
    ⟨1193533200, ⟨60, 0⟩⟩, ⟨1206838800, ⟨120, 60⟩⟩, ⟨1224982800, ⟨60, 0⟩⟩,
    ⟨1238288400, ⟨120, 60⟩⟩, ⟨1256432400, ⟨60, 0⟩⟩, ⟨1269738000, ⟨120, 60⟩⟩,
    ⟨1288486800, ⟨60, 0⟩⟩, ⟨1301187600, ⟨120, 60⟩⟩, ⟨1319936400, ⟨60, 0⟩⟩,
    ⟨1332637200, ⟨120, 60⟩⟩, ⟨1351386000, ⟨60, 0⟩⟩, ⟨1364691600, ⟨120, 60⟩⟩,
    ⟨1382835600, ⟨60, 0⟩⟩, ⟨1396141200, ⟨120, 60⟩⟩, ⟨1414285200, ⟨60, 0⟩⟩,
    ⟨1427590800, ⟨120, 60⟩⟩, ⟨1445734800, ⟨60, 0⟩⟩, ⟨1459040400, ⟨120, 60⟩⟩,
    ⟨1477789200, ⟨60, 0⟩⟩, ⟨1490490000, ⟨120, 60⟩⟩, ⟨1509238800, ⟨60, 0⟩⟩,
    ⟨1521939600, ⟨120, 60⟩⟩, ⟨1540688400, ⟨60, 0⟩⟩, ⟨1553994000, ⟨120, 60⟩⟩,
    ⟨1572138000, ⟨60, 0⟩⟩, ⟨1585443600, ⟨120, 60⟩⟩, ⟨1603587600, ⟨60, 0⟩⟩,
    ⟨1616893200, ⟨120, 60⟩⟩, ⟨1635642000, ⟨60, 0⟩⟩, ⟨1648342800, ⟨120, 60⟩⟩,
    ⟨1667091600, ⟨60, 0⟩⟩, ⟨1679792400, ⟨120, 60⟩⟩, ⟨1698541200, ⟨60, 0⟩⟩,
    ⟨1711846800, ⟨120, 60⟩⟩, ⟨1729990800, ⟨60, 0⟩⟩, ⟨1743296400, ⟨120, 60⟩⟩,
    ⟨1761440400, ⟨60, 0⟩⟩, ⟨1774746000, ⟨120, 60⟩⟩, ⟨1792890000, ⟨60, 0⟩⟩,
    ⟨1806195600, ⟨120, 60⟩⟩, ⟨1824944400, ⟨60, 0⟩⟩, ⟨1837645200, ⟨120, 60⟩⟩,
    ⟨1856394000, ⟨60, 0⟩⟩, ⟨1869094800, ⟨120, 60⟩⟩, ⟨1887843600, ⟨60, 0⟩⟩,
    ⟨1901149200, ⟨120, 60⟩⟩, ⟨1919293200, ⟨60, 0⟩⟩, ⟨1932598800, ⟨120, 60⟩⟩,
    ⟨1950742800, ⟨60, 0⟩⟩, ⟨1964048400, ⟨120, 60⟩⟩, ⟨1982797200, ⟨60, 0⟩⟩,
    ⟨1995498000, ⟨120, 60⟩⟩, ⟨2014246800, ⟨60, 0⟩⟩, ⟨2026947600, ⟨120, 60⟩⟩,
    ⟨2045696400, ⟨60, 0⟩⟩, ⟨2058397200, ⟨120, 60⟩⟩, ⟨2077146000, ⟨60, 0⟩⟩,
    ⟨2090451600, ⟨120, 60⟩⟩, ⟨2108595600, ⟨60, 0⟩⟩, ⟨2121901200, ⟨120, 60⟩⟩,
    ⟨2140045200, ⟨60, 0⟩⟩],
   by decide +kernel⟩

/-- The rules of `Europe/Warsaw`. -/
def warsaw : Rules :=
  ⟨⟨84, 0⟩,
   [⟨-2147483648, ⟨84, 0⟩⟩, ⟨-1717032240, ⟨60, 0⟩⟩, ⟨-1693706400, ⟨120, 60⟩⟩,
    ⟨-1680483600, ⟨60, 0⟩⟩, ⟨-1663455600, ⟨120, 60⟩⟩, ⟨-1650150000, ⟨60, 0⟩⟩,
    ⟨-1632006000, ⟨120, 60⟩⟩, ⟨-1618700400, ⟨120, 0⟩⟩, ⟨-1600473600, ⟨180, 60⟩⟩,
    ⟨-1587168000, ⟨120, 0⟩⟩, ⟨-1501725600, ⟨60, 0⟩⟩, ⟨-931734000, ⟨120, 60⟩⟩,
    ⟨-857257200, ⟨60, 0⟩⟩, ⟨-844556400, ⟨120, 60⟩⟩, ⟨-828226800, ⟨60, 0⟩⟩,
    ⟨-812502000, ⟨120, 60⟩⟩, ⟨-796608000, ⟨60, 0⟩⟩, ⟨-778726800, ⟨120, 60⟩⟩,
    ⟨-762660000, ⟨60, 0⟩⟩, ⟨-748486800, ⟨120, 60⟩⟩, ⟨-733273200, ⟨60, 0⟩⟩,
    ⟨-715215600, ⟨120, 60⟩⟩, ⟨-701910000, ⟨60, 0⟩⟩, ⟨-684975600, ⟨120, 60⟩⟩,
    ⟨-670460400, ⟨60, 0⟩⟩, ⟨-654130800, ⟨120, 60⟩⟩, ⟨-639010800, ⟨60, 0⟩⟩,
    ⟨-397094400, ⟨120, 60⟩⟩, ⟨-386812800, ⟨60, 0⟩⟩, ⟨-371088000, ⟨120, 60⟩⟩,
    ⟨-355363200, ⟨60, 0⟩⟩, ⟨-334195200, ⟨120, 60⟩⟩, ⟨-323308800, ⟨60, 0⟩⟩,
    ⟨-307584000, ⟨120, 60⟩⟩, ⟨-291859200, ⟨60, 0⟩⟩, ⟨-271296000, ⟨120, 60⟩⟩,
    ⟨-260409600, ⟨60, 0⟩⟩, ⟨-239846400, ⟨120, 60⟩⟩, ⟨-228960000, ⟨60, 0⟩⟩,
    ⟨-208396800, ⟨120, 60⟩⟩, ⟨-197510400, ⟨60, 0⟩⟩, ⟨-176342400, ⟨120, 60⟩⟩,
    ⟨-166060800, ⟨60, 0⟩⟩, ⟨228873600, ⟨120, 60⟩⟩, ⟨243993600, ⟨60, 0⟩⟩, ⟨260323200, ⟨120, 60⟩⟩,
    ⟨276048000, ⟨60, 0⟩⟩, ⟨291772800, ⟨120, 60⟩⟩, ⟨307497600, ⟨60, 0⟩⟩, ⟨323827200, ⟨120, 60⟩⟩,
    ⟨338947200, ⟨60, 0⟩⟩, ⟨354672000, ⟨120, 60⟩⟩, ⟨370396800, ⟨60, 0⟩⟩, ⟨386121600, ⟨120, 60⟩⟩,
    ⟨401846400, ⟨60, 0⟩⟩, ⟨417571200, ⟨120, 60⟩⟩, ⟨433296000, ⟨60, 0⟩⟩, ⟨449020800, ⟨120, 60⟩⟩,
    ⟨465350400, ⟨60, 0⟩⟩, ⟨481075200, ⟨120, 60⟩⟩, ⟨496800000, ⟨60, 0⟩⟩, ⟨512524800, ⟨120, 60⟩⟩,
    ⟨528249600, ⟨60, 0⟩⟩, ⟨543974400, ⟨120, 60⟩⟩, ⟨559699200, ⟨60, 0⟩⟩, ⟨575427600, ⟨120, 60⟩⟩,
    ⟨591152400, ⟨60, 0⟩⟩, ⟨606877200, ⟨120, 60⟩⟩, ⟨622602000, ⟨60, 0⟩⟩, ⟨638326800, ⟨120, 60⟩⟩,
    ⟨654656400, ⟨60, 0⟩⟩, ⟨670381200, ⟨120, 60⟩⟩, ⟨686106000, ⟨60, 0⟩⟩, ⟨701830800, ⟨120, 60⟩⟩,
    ⟨717555600, ⟨60, 0⟩⟩, ⟨733280400, ⟨120, 60⟩⟩, ⟨749005200, ⟨60, 0⟩⟩, ⟨764730000, ⟨120, 60⟩⟩,
    ⟨780454800, ⟨60, 0⟩⟩, ⟨796179600, ⟨120, 60⟩⟩, ⟨811904400, ⟨60, 0⟩⟩, ⟨828234000, ⟨120, 60⟩⟩,
    ⟨846378000, ⟨60, 0⟩⟩, ⟨859683600, ⟨120, 60⟩⟩, ⟨877827600, ⟨60, 0⟩⟩, ⟨891133200, ⟨120, 60⟩⟩,
    ⟨909277200, ⟨60, 0⟩⟩, ⟨922582800, ⟨120, 60⟩⟩, ⟨941331600, ⟨60, 0⟩⟩, ⟨954032400, ⟨120, 60⟩⟩,
    ⟨972781200, ⟨60, 0⟩⟩, ⟨985482000, ⟨120, 60⟩⟩, ⟨1004230800, ⟨60, 0⟩⟩, ⟨1017536400, ⟨120, 60⟩⟩,
    ⟨1035680400, ⟨60, 0⟩⟩, ⟨1048986000, ⟨120, 60⟩⟩, ⟨1067130000, ⟨60, 0⟩⟩,
    ⟨1080435600, ⟨120, 60⟩⟩, ⟨1099184400, ⟨60, 0⟩⟩, ⟨1111885200, ⟨120, 60⟩⟩,
    ⟨1130634000, ⟨60, 0⟩⟩, ⟨1143334800, ⟨120, 60⟩⟩, ⟨1162083600, ⟨60, 0⟩⟩,
    ⟨1174784400, ⟨120, 60⟩⟩, ⟨1193533200, ⟨60, 0⟩⟩, ⟨1206838800, ⟨120, 60⟩⟩,
    ⟨1224982800, ⟨60, 0⟩⟩, ⟨1238288400, ⟨120, 60⟩⟩, ⟨1256432400, ⟨60, 0⟩⟩,
    ⟨1269738000, ⟨120, 60⟩⟩, ⟨1288486800, ⟨60, 0⟩⟩, ⟨1301187600, ⟨120, 60⟩⟩,
    ⟨1319936400, ⟨60, 0⟩⟩, ⟨1332637200, ⟨120, 60⟩⟩, ⟨1351386000, ⟨60, 0⟩⟩,
    ⟨1364691600, ⟨120, 60⟩⟩, ⟨1382835600, ⟨60, 0⟩⟩, ⟨1396141200, ⟨120, 60⟩⟩,
    ⟨1414285200, ⟨60, 0⟩⟩, ⟨1427590800, ⟨120, 60⟩⟩, ⟨1445734800, ⟨60, 0⟩⟩,
    ⟨1459040400, ⟨120, 60⟩⟩, ⟨1477789200, ⟨60, 0⟩⟩, ⟨1490490000, ⟨120, 60⟩⟩,
    ⟨1509238800, ⟨60, 0⟩⟩, ⟨1521939600, ⟨120, 60⟩⟩, ⟨1540688400, ⟨60, 0⟩⟩,
    ⟨1553994000, ⟨120, 60⟩⟩, ⟨1572138000, ⟨60, 0⟩⟩, ⟨1585443600, ⟨120, 60⟩⟩,
    ⟨1603587600, ⟨60, 0⟩⟩, ⟨1616893200, ⟨120, 60⟩⟩, ⟨1635642000, ⟨60, 0⟩⟩,
    ⟨1648342800, ⟨120, 60⟩⟩, ⟨1667091600, ⟨60, 0⟩⟩, ⟨1679792400, ⟨120, 60⟩⟩,
    ⟨1698541200, ⟨60, 0⟩⟩, ⟨1711846800, ⟨120, 60⟩⟩, ⟨1729990800, ⟨60, 0⟩⟩,
    ⟨1743296400, ⟨120, 60⟩⟩, ⟨1761440400, ⟨60, 0⟩⟩, ⟨1774746000, ⟨120, 60⟩⟩,
    ⟨1792890000, ⟨60, 0⟩⟩, ⟨1806195600, ⟨120, 60⟩⟩, ⟨1824944400, ⟨60, 0⟩⟩,
    ⟨1837645200, ⟨120, 60⟩⟩, ⟨1856394000, ⟨60, 0⟩⟩, ⟨1869094800, ⟨120, 60⟩⟩,
    ⟨1887843600, ⟨60, 0⟩⟩, ⟨1901149200, ⟨120, 60⟩⟩, ⟨1919293200, ⟨60, 0⟩⟩,
    ⟨1932598800, ⟨120, 60⟩⟩, ⟨1950742800, ⟨60, 0⟩⟩, ⟨1964048400, ⟨120, 60⟩⟩,
    ⟨1982797200, ⟨60, 0⟩⟩, ⟨1995498000, ⟨120, 60⟩⟩, ⟨2014246800, ⟨60, 0⟩⟩,
    ⟨2026947600, ⟨120, 60⟩⟩, ⟨2045696400, ⟨60, 0⟩⟩, ⟨2058397200, ⟨120, 60⟩⟩,
    ⟨2077146000, ⟨60, 0⟩⟩, ⟨2090451600, ⟨120, 60⟩⟩, ⟨2108595600, ⟨60, 0⟩⟩,
    ⟨2121901200, ⟨120, 60⟩⟩, ⟨2140045200, ⟨60, 0⟩⟩],
   by decide +kernel⟩

end Europe
end Zone
end TypedInputs
