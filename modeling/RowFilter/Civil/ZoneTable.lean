/-!
# Zone table

When some zones changed or will change their distance from UTC, up to the year 2099. Each begins with
the mean solar time of its city. A change is given by its instant, in seconds since the start of
1970, and by the new distance in seconds.
-/

namespace RowFilter.Civil.ZoneTable

/-- The changes of Europe/Lisbon. -/
def lisbon : List (Int × Int) :=
  [(-1830384000, 0), (-1689555600, 3600), (-1677801600, 0), (-1667433600, 3600), (-1647738000, 0),
  (-1635897600, 3600), (-1616202000, 0), (-1604361600, 3600), (-1584666000, 0),
  (-1572739200, 3600), (-1553043600, 0), (-1541203200, 3600), (-1521507600, 0),
  (-1442451600, 3600), (-1427677200, 0), (-1379293200, 3600), (-1364778000, 0),
  (-1348448400, 3600), (-1333328400, 0), (-1316394000, 3600), (-1301274000, 0),
  (-1284339600, 3600), (-1269824400, 0), (-1221440400, 3600), (-1206925200, 0),
  (-1191200400, 3600), (-1175475600, 0), (-1127696400, 3600), (-1111971600, 0),
  (-1096851600, 3600), (-1080522000, 0), (-1063587600, 3600), (-1049072400, 0),
  (-1033347600, 3600), (-1017622800, 0), (-1002502800, 3600), (-986173200, 0), (-969238800, 3600),
  (-950490000, 0), (-942022800, 3600), (-922496400, 0), (-906944400, 3600), (-891133200, 0),
  (-877309200, 3600), (-873684000, 7200), (-864007200, 3600), (-857955600, 0), (-845859600, 3600),
  (-842839200, 7200), (-831348000, 3600), (-825901200, 0), (-814410000, 3600), (-810784800, 7200),
  (-799898400, 3600), (-794451600, 0), (-782960400, 3600), (-779335200, 7200), (-768448800, 3600),
  (-763002000, 0), (-749091600, 3600), (-733366800, 0), (-717631200, 3600), (-701906400, 0),
  (-686181600, 3600), (-670456800, 0), (-654732000, 3600), (-639007200, 0), (-623282400, 3600),
  (-607557600, 0), (-591832800, 3600), (-575503200, 0), (-559778400, 3600), (-544053600, 0),
  (-528328800, 3600), (-512604000, 0), (-496879200, 3600), (-481154400, 0), (-465429600, 3600),
  (-449704800, 0), (-433980000, 3600), (-417650400, 0), (-401925600, 3600), (-386200800, 0),
  (-370476000, 3600), (-354751200, 0), (-339026400, 3600), (-323301600, 0), (-307576800, 3600),
  (-291852000, 0), (-276127200, 3600), (-260402400, 0), (-244677600, 3600), (-228348000, 0),
  (-212623200, 3600), (-196898400, 0), (-181173600, 3600), (-165448800, 0), (-149724000, 3600),
  (-133999200, 0), (-118274400, 3600), (212544000, 0), (228268800, 3600), (243993600, 0),
  (260326800, 3600), (276051600, 0), (291776400, 3600), (307501200, 0), (323830800, 3600),
  (338950800, 0), (354672000, 3600), (370396800, 0), (386121600, 3600), (401846400, 0),
  (417571200, 3600), (433296000, 0), (449020800, 3600), (465350400, 0), (481075200, 3600),
  (496800000, 0), (512528400, 3600), (528253200, 0), (543978000, 3600), (559702800, 0),
  (575427600, 3600), (591152400, 0), (606877200, 3600), (622602000, 0), (638326800, 3600),
  (654656400, 0), (670381200, 3600), (686106000, 0), (701830800, 3600), (733280400, 7200),
  (749005200, 3600), (764730000, 7200), (780454800, 3600), (796179600, 7200), (811904400, 3600),
  (846378000, 0), (859683600, 3600), (877827600, 0), (891133200, 3600), (909277200, 0),
  (922582800, 3600), (941331600, 0), (954032400, 3600), (972781200, 0), (985482000, 3600),
  (1004230800, 0), (1017536400, 3600), (1035680400, 0), (1048986000, 3600), (1067130000, 0),
  (1080435600, 3600), (1099184400, 0), (1111885200, 3600), (1130634000, 0), (1143334800, 3600),
  (1162083600, 0), (1174784400, 3600), (1193533200, 0), (1206838800, 3600), (1224982800, 0),
  (1238288400, 3600), (1256432400, 0), (1269738000, 3600), (1288486800, 0), (1301187600, 3600),
  (1319936400, 0), (1332637200, 3600), (1351386000, 0), (1364691600, 3600), (1382835600, 0),
  (1396141200, 3600), (1414285200, 0), (1427590800, 3600), (1445734800, 0), (1459040400, 3600),
  (1477789200, 0), (1490490000, 3600), (1509238800, 0), (1521939600, 3600), (1540688400, 0),
  (1553994000, 3600), (1572138000, 0), (1585443600, 3600), (1603587600, 0), (1616893200, 3600),
  (1635642000, 0), (1648342800, 3600), (1667091600, 0), (1679792400, 3600), (1698541200, 0),
  (1711846800, 3600), (1729990800, 0), (1743296400, 3600), (1761440400, 0), (1774746000, 3600),
  (1792890000, 0), (1806195600, 3600), (1824944400, 0), (1837645200, 3600), (1856394000, 0),
  (1869094800, 3600), (1887843600, 0), (1901149200, 3600), (1919293200, 0), (1932598800, 3600),
  (1950742800, 0), (1964048400, 3600), (1982797200, 0), (1995498000, 3600), (2014246800, 0),
  (2026947600, 3600), (2045696400, 0), (2058397200, 3600), (2077146000, 0), (2090451600, 3600),
  (2108595600, 0), (2121901200, 3600), (2140045200, 0), (2153350800, 3600), (2172099600, 0),
  (2184800400, 3600), (2203549200, 0), (2216250000, 3600), (2234998800, 0), (2248304400, 3600),
  (2266448400, 0), (2279754000, 3600), (2297898000, 0), (2311203600, 3600), (2329347600, 0),
  (2342653200, 3600), (2361402000, 0), (2374102800, 3600), (2392851600, 0), (2405552400, 3600),
  (2424301200, 0), (2437606800, 3600), (2455750800, 0), (2469056400, 3600), (2487200400, 0),
  (2500506000, 3600), (2519254800, 0), (2531955600, 3600), (2550704400, 0), (2563405200, 3600),
  (2582154000, 0), (2595459600, 3600), (2613603600, 0), (2626909200, 3600), (2645053200, 0),
  (2658358800, 3600), (2676502800, 0), (2689808400, 3600), (2708557200, 0), (2721258000, 3600),
  (2740006800, 0), (2752707600, 3600), (2771456400, 0), (2784762000, 3600), (2802906000, 0),
  (2816211600, 3600), (2834355600, 0), (2847661200, 3600), (2866410000, 0), (2879110800, 3600),
  (2897859600, 0), (2910560400, 3600), (2929309200, 0), (2942010000, 3600), (2960758800, 0),
  (2974064400, 3600), (2992208400, 0), (3005514000, 3600), (3023658000, 0), (3036963600, 3600),
  (3055712400, 0), (3068413200, 3600), (3087162000, 0), (3099862800, 3600), (3118611600, 0),
  (3131917200, 3600), (3150061200, 0), (3163366800, 3600), (3181510800, 0), (3194816400, 3600),
  (3212960400, 0), (3226266000, 3600), (3245014800, 0), (3257715600, 3600), (3276464400, 0),
  (3289165200, 3600), (3307914000, 0), (3321219600, 3600), (3339363600, 0), (3352669200, 3600),
  (3370813200, 0), (3384118800, 3600), (3402867600, 0), (3415568400, 3600), (3434317200, 0),
  (3447018000, 3600), (3465766800, 0), (3479072400, 3600), (3497216400, 0), (3510522000, 3600),
  (3528666000, 0), (3541971600, 3600), (3560115600, 0), (3573421200, 3600), (3592170000, 0),
  (3604870800, 3600), (3623619600, 0), (3636320400, 3600), (3655069200, 0), (3668374800, 3600),
  (3686518800, 0), (3699824400, 3600), (3717968400, 0), (3731274000, 3600), (3750022800, 0),
  (3762723600, 3600), (3781472400, 0), (3794173200, 3600), (3812922000, 0), (3825622800, 3600),
  (3844371600, 0), (3857677200, 3600), (3875821200, 0), (3889126800, 3600), (3907270800, 0),
  (3920576400, 3600), (3939325200, 0), (3952026000, 3600), (3970774800, 0), (3983475600, 3600),
  (4002224400, 0), (4015530000, 3600), (4033674000, 0), (4046979600, 3600), (4065123600, 0),
  (4078429200, 3600), (4096573200, 0)]

/-- The changes of Europe/Paris. -/
def paris : List (Int × Int) :=
  [(-1855958961, 0), (-1689814800, 3600), (-1680397200, 0), (-1665363600, 3600), (-1648342800, 0),
  (-1635123600, 3600), (-1616893200, 0), (-1604278800, 3600), (-1585443600, 0),
  (-1574038800, 3600), (-1552266000, 0), (-1539997200, 3600), (-1520557200, 0),
  (-1507510800, 3600), (-1490576400, 0), (-1470618000, 3600), (-1459126800, 0),
  (-1444006800, 3600), (-1427677200, 0), (-1411952400, 3600), (-1396227600, 0),
  (-1379293200, 3600), (-1364778000, 0), (-1348448400, 3600), (-1333328400, 0),
  (-1316394000, 3600), (-1301274000, 0), (-1284339600, 3600), (-1269824400, 0),
  (-1253494800, 3600), (-1238374800, 0), (-1221440400, 3600), (-1206925200, 0),
  (-1191200400, 3600), (-1175475600, 0), (-1160355600, 3600), (-1143421200, 0),
  (-1127696400, 3600), (-1111971600, 0), (-1096851600, 3600), (-1080522000, 0),
  (-1063587600, 3600), (-1049072400, 0), (-1033347600, 3600), (-1017622800, 0),
  (-1002502800, 3600), (-986173200, 0), (-969238800, 3600), (-950490000, 0), (-942012000, 3600),
  (-932436000, 7200), (-857257200, 3600), (-844556400, 7200), (-828226800, 3600),
  (-812502000, 7200), (-796266000, 3600), (-781052400, 7200), (-766623600, 3600),
  (196819200, 7200), (212540400, 3600), (228877200, 7200), (243997200, 3600), (260326800, 7200),
  (276051600, 3600), (291776400, 7200), (307501200, 3600), (323830800, 7200), (338950800, 3600),
  (354675600, 7200), (370400400, 3600), (386125200, 7200), (401850000, 3600), (417574800, 7200),
  (433299600, 3600), (449024400, 7200), (465354000, 3600), (481078800, 7200), (496803600, 3600),
  (512528400, 7200), (528253200, 3600), (543978000, 7200), (559702800, 3600), (575427600, 7200),
  (591152400, 3600), (606877200, 7200), (622602000, 3600), (638326800, 7200), (654656400, 3600),
  (670381200, 7200), (686106000, 3600), (701830800, 7200), (717555600, 3600), (733280400, 7200),
  (749005200, 3600), (764730000, 7200), (780454800, 3600), (796179600, 7200), (811904400, 3600),
  (828234000, 7200), (846378000, 3600), (859683600, 7200), (877827600, 3600), (891133200, 7200),
  (909277200, 3600), (922582800, 7200), (941331600, 3600), (954032400, 7200), (972781200, 3600),
  (985482000, 7200), (1004230800, 3600), (1017536400, 7200), (1035680400, 3600),
  (1048986000, 7200), (1067130000, 3600), (1080435600, 7200), (1099184400, 3600),
  (1111885200, 7200), (1130634000, 3600), (1143334800, 7200), (1162083600, 3600),
  (1174784400, 7200), (1193533200, 3600), (1206838800, 7200), (1224982800, 3600),
  (1238288400, 7200), (1256432400, 3600), (1269738000, 7200), (1288486800, 3600),
  (1301187600, 7200), (1319936400, 3600), (1332637200, 7200), (1351386000, 3600),
  (1364691600, 7200), (1382835600, 3600), (1396141200, 7200), (1414285200, 3600),
  (1427590800, 7200), (1445734800, 3600), (1459040400, 7200), (1477789200, 3600),
  (1490490000, 7200), (1509238800, 3600), (1521939600, 7200), (1540688400, 3600),
  (1553994000, 7200), (1572138000, 3600), (1585443600, 7200), (1603587600, 3600),
  (1616893200, 7200), (1635642000, 3600), (1648342800, 7200), (1667091600, 3600),
  (1679792400, 7200), (1698541200, 3600), (1711846800, 7200), (1729990800, 3600),
  (1743296400, 7200), (1761440400, 3600), (1774746000, 7200), (1792890000, 3600),
  (1806195600, 7200), (1824944400, 3600), (1837645200, 7200), (1856394000, 3600),
  (1869094800, 7200), (1887843600, 3600), (1901149200, 7200), (1919293200, 3600),
  (1932598800, 7200), (1950742800, 3600), (1964048400, 7200), (1982797200, 3600),
  (1995498000, 7200), (2014246800, 3600), (2026947600, 7200), (2045696400, 3600),
  (2058397200, 7200), (2077146000, 3600), (2090451600, 7200), (2108595600, 3600),
  (2121901200, 7200), (2140045200, 3600), (2153350800, 7200), (2172099600, 3600),
  (2184800400, 7200), (2203549200, 3600), (2216250000, 7200), (2234998800, 3600),
  (2248304400, 7200), (2266448400, 3600), (2279754000, 7200), (2297898000, 3600),
  (2311203600, 7200), (2329347600, 3600), (2342653200, 7200), (2361402000, 3600),
  (2374102800, 7200), (2392851600, 3600), (2405552400, 7200), (2424301200, 3600),
  (2437606800, 7200), (2455750800, 3600), (2469056400, 7200), (2487200400, 3600),
  (2500506000, 7200), (2519254800, 3600), (2531955600, 7200), (2550704400, 3600),
  (2563405200, 7200), (2582154000, 3600), (2595459600, 7200), (2613603600, 3600),
  (2626909200, 7200), (2645053200, 3600), (2658358800, 7200), (2676502800, 3600),
  (2689808400, 7200), (2708557200, 3600), (2721258000, 7200), (2740006800, 3600),
  (2752707600, 7200), (2771456400, 3600), (2784762000, 7200), (2802906000, 3600),
  (2816211600, 7200), (2834355600, 3600), (2847661200, 7200), (2866410000, 3600),
  (2879110800, 7200), (2897859600, 3600), (2910560400, 7200), (2929309200, 3600),
  (2942010000, 7200), (2960758800, 3600), (2974064400, 7200), (2992208400, 3600),
  (3005514000, 7200), (3023658000, 3600), (3036963600, 7200), (3055712400, 3600),
  (3068413200, 7200), (3087162000, 3600), (3099862800, 7200), (3118611600, 3600),
  (3131917200, 7200), (3150061200, 3600), (3163366800, 7200), (3181510800, 3600),
  (3194816400, 7200), (3212960400, 3600), (3226266000, 7200), (3245014800, 3600),
  (3257715600, 7200), (3276464400, 3600), (3289165200, 7200), (3307914000, 3600),
  (3321219600, 7200), (3339363600, 3600), (3352669200, 7200), (3370813200, 3600),
  (3384118800, 7200), (3402867600, 3600), (3415568400, 7200), (3434317200, 3600),
  (3447018000, 7200), (3465766800, 3600), (3479072400, 7200), (3497216400, 3600),
  (3510522000, 7200), (3528666000, 3600), (3541971600, 7200), (3560115600, 3600),
  (3573421200, 7200), (3592170000, 3600), (3604870800, 7200), (3623619600, 3600),
  (3636320400, 7200), (3655069200, 3600), (3668374800, 7200), (3686518800, 3600),
  (3699824400, 7200), (3717968400, 3600), (3731274000, 7200), (3750022800, 3600),
  (3762723600, 7200), (3781472400, 3600), (3794173200, 7200), (3812922000, 3600),
  (3825622800, 7200), (3844371600, 3600), (3857677200, 7200), (3875821200, 3600),
  (3889126800, 7200), (3907270800, 3600), (3920576400, 7200), (3939325200, 3600),
  (3952026000, 7200), (3970774800, 3600), (3983475600, 7200), (4002224400, 3600),
  (4015530000, 7200), (4033674000, 3600), (4046979600, 7200), (4065123600, 3600),
  (4078429200, 7200), (4096573200, 3600)]

/-- Eastern standard time. -/
def est : Int := -18000

/-- Eastern daylight time. -/
def edt : Int := -14400

/-- The changes of America/New_York. -/
def newYork : List (Int × Int) :=
  [(-2717650800, est), (-1633280400, edt), (-1615140000, est), (-1601830800, edt),
  (-1583690400, est), (-1570381200, edt), (-1551636000, est), (-1536512400, edt),
  (-1523210400, est), (-1504458000, edt), (-1491760800, est), (-1473008400, edt),
  (-1459706400, est), (-1441558800, edt), (-1428256800, est), (-1410109200, edt),
  (-1396807200, est), (-1378659600, edt), (-1365357600, est), (-1347210000, edt),
  (-1333908000, est), (-1315155600, edt), (-1301853600, est), (-1283706000, edt),
  (-1270404000, est), (-1252256400, edt), (-1238954400, est), (-1220806800, edt),
  (-1207504800, est), (-1189357200, edt), (-1176055200, est), (-1157302800, edt),
  (-1144605600, est), (-1125853200, edt), (-1112551200, est), (-1094403600, edt),
  (-1081101600, est), (-1062954000, edt), (-1049652000, est), (-1031504400, edt),
  (-1018202400, est), (-1000054800, edt), (-986752800, est), (-968000400, edt), (-955303200, est),
  (-936550800, edt), (-923248800, est), (-905101200, edt), (-891799200, est), (-880218000, edt),
  (-765396000, est), (-747248400, edt), (-733946400, est), (-715798800, edt), (-702496800, est),
  (-684349200, edt), (-671047200, est), (-652899600, edt), (-639597600, est), (-620845200, edt),
  (-608148000, est), (-589395600, edt), (-576093600, est), (-557946000, edt), (-544644000, est),
  (-526496400, edt), (-513194400, est), (-495046800, edt), (-481744800, est), (-463597200, edt),
  (-447271200, est), (-431542800, edt), (-415821600, est), (-400093200, edt), (-384372000, est),
  (-368643600, edt), (-352922400, est), (-337194000, edt), (-321472800, est), (-305744400, edt),
  (-289418400, est), (-273690000, edt), (-257968800, est), (-242240400, edt), (-226519200, est),
  (-210790800, edt), (-195069600, est), (-179341200, edt), (-163620000, est), (-147891600, edt),
  (-131565600, est), (-116442000, edt), (-100116000, est), (-84387600, edt), (-68666400, est),
  (-52938000, edt), (-37216800, est), (-21488400, edt), (-5767200, est), (9961200, edt),
  (25682400, est), (41410800, edt), (57736800, est), (73465200, edt), (89186400, est),
  (104914800, edt), (120636000, est), (126687600, edt), (152085600, est), (162370800, edt),
  (183535200, est), (199263600, edt), (215589600, est), (230713200, edt), (247039200, est),
  (262767600, edt), (278488800, est), (294217200, edt), (309938400, est), (325666800, edt),
  (341388000, est), (357116400, edt), (372837600, est), (388566000, edt), (404892000, est),
  (420015600, edt), (436341600, est), (452070000, edt), (467791200, est), (483519600, edt),
  (499240800, est), (514969200, edt), (530690400, est), (544604400, edt), (562140000, est),
  (576054000, edt), (594194400, est), (607503600, edt), (625644000, est), (638953200, edt),
  (657093600, est), (671007600, edt), (688543200, est), (702457200, edt), (719992800, est),
  (733906800, edt), (752047200, est), (765356400, edt), (783496800, est), (796806000, edt),
  (814946400, est), (828860400, edt), (846396000, est), (860310000, edt), (877845600, est),
  (891759600, edt), (909295200, est), (923209200, edt), (941349600, est), (954658800, edt),
  (972799200, est), (986108400, edt), (1004248800, est), (1018162800, edt), (1035698400, est),
  (1049612400, edt), (1067148000, est), (1081062000, edt), (1099202400, est), (1112511600, edt),
  (1130652000, est), (1143961200, edt), (1162101600, est), (1173596400, edt), (1194156000, est),
  (1205046000, edt), (1225605600, est), (1236495600, edt), (1257055200, est), (1268550000, edt),
  (1289109600, est), (1299999600, edt), (1320559200, est), (1331449200, edt), (1352008800, est),
  (1362898800, edt), (1383458400, est), (1394348400, edt), (1414908000, est), (1425798000, edt),
  (1446357600, est), (1457852400, edt), (1478412000, est), (1489302000, edt), (1509861600, est),
  (1520751600, edt), (1541311200, est), (1552201200, edt), (1572760800, est), (1583650800, edt),
  (1604210400, est), (1615705200, edt), (1636264800, est), (1647154800, edt), (1667714400, est),
  (1678604400, edt), (1699164000, est), (1710054000, edt), (1730613600, est), (1741503600, edt),
  (1762063200, est), (1772953200, edt), (1793512800, est), (1805007600, edt), (1825567200, est),
  (1836457200, edt), (1857016800, est), (1867906800, edt), (1888466400, est), (1899356400, edt),
  (1919916000, est), (1930806000, edt), (1951365600, est), (1962860400, edt), (1983420000, est),
  (1994310000, edt), (2014869600, est), (2025759600, edt), (2046319200, est), (2057209200, edt),
  (2077768800, est), (2088658800, edt), (2109218400, est), (2120108400, edt), (2140668000, est),
  (2152162800, edt), (2172722400, est), (2183612400, edt), (2204172000, est), (2215062000, edt),
  (2235621600, est), (2246511600, edt), (2267071200, est), (2277961200, edt), (2298520800, est),
  (2309410800, edt), (2329970400, est), (2341465200, edt), (2362024800, est), (2372914800, edt),
  (2393474400, est), (2404364400, edt), (2424924000, est), (2435814000, edt), (2456373600, est),
  (2467263600, edt), (2487823200, est), (2499318000, edt), (2519877600, est), (2530767600, edt),
  (2551327200, est), (2562217200, edt), (2582776800, est), (2593666800, edt), (2614226400, est),
  (2625116400, edt), (2645676000, est), (2656566000, edt), (2677125600, est), (2688620400, edt),
  (2709180000, est), (2720070000, edt), (2740629600, est), (2751519600, edt), (2772079200, est),
  (2782969200, edt), (2803528800, est), (2814418800, edt), (2834978400, est), (2846473200, edt),
  (2867032800, est), (2877922800, edt), (2898482400, est), (2909372400, edt), (2929932000, est),
  (2940822000, edt), (2961381600, est), (2972271600, edt), (2992831200, est), (3003721200, edt),
  (3024280800, est), (3035775600, edt), (3056335200, est), (3067225200, edt), (3087784800, est),
  (3098674800, edt), (3119234400, est), (3130124400, edt), (3150684000, est), (3161574000, edt),
  (3182133600, est), (3193023600, edt), (3213583200, est), (3225078000, edt), (3245637600, est),
  (3256527600, edt), (3277087200, est), (3287977200, edt), (3308536800, est), (3319426800, edt),
  (3339986400, est), (3350876400, edt), (3371436000, est), (3382930800, edt), (3403490400, est),
  (3414380400, edt), (3434940000, est), (3445830000, edt), (3466389600, est), (3477279600, edt),
  (3497839200, est), (3508729200, edt), (3529288800, est), (3540178800, edt), (3560738400, est),
  (3572233200, edt), (3592792800, est), (3603682800, edt), (3624242400, est), (3635132400, edt),
  (3655692000, est), (3666582000, edt), (3687141600, est), (3698031600, edt), (3718591200, est),
  (3730086000, edt), (3750645600, est), (3761535600, edt), (3782095200, est), (3792985200, edt),
  (3813544800, est), (3824434800, edt), (3844994400, est), (3855884400, edt), (3876444000, est),
  (3887334000, edt), (3907893600, est), (3919388400, edt), (3939948000, est), (3950838000, edt),
  (3971397600, est), (3982287600, edt), (4002847200, est), (4013737200, edt), (4034296800, est),
  (4045186800, edt), (4065746400, est), (4076636400, edt), (4097196000, est)]

/-- Argentina time. -/
def art : Int := -10800

/-- Argentina summer time. -/
def arst : Int := -7200

/-- The changes of America/Argentina/Buenos_Aires. -/
def buenosAires : List (Int × Int) :=
  [(-2372097972, -15408), (-1567453392, -14400), (-1233432000, art), (-1222981200, -14400),
  (-1205956800, art), (-1194037200, -14400), (-1172865600, art), (-1162501200, -14400),
  (-1141329600, art), (-1130965200, -14400), (-1109793600, art), (-1099429200, -14400),
  (-1078257600, art), (-1067806800, -14400), (-1046635200, art), (-1036270800, -14400),
  (-1015099200, art), (-1004734800, -14400), (-983563200, art), (-973198800, -14400),
  (-952027200, art), (-941576400, -14400), (-931032000, art), (-900882000, -14400),
  (-890337600, art), (-833749200, -14400), (-827265600, art), (-752274000, -14400),
  (-733780800, art), (-197326800, -14400), (-190843200, art), (-184194000, -14400),
  (-164491200, art), (-152658000, -14400), (-132955200, art), (-121122000, -14400),
  (-101419200, art), (-86821200, -14400), (-71092800, art), (-54766800, -14400), (-39038400, art),
  (-23317200, -14400), (-7588800, art), (128142000, arst), (136605600, art), (596948400, arst),
  (605066400, art), (624423600, arst), (636516000, art), (656478000, arst), (667965600, art),
  (687927600, arst), (699415200, art), (719377200, arst), (731469600, art), (1198983600, arst),
  (1205632800, art), (1224385200, arst), (1237082400, art)]

/-- The changes of Asia/Tokyo. -/
def tokyo : List (Int × Int) :=
  [(-2587712400, 32400), (-683802000, 36000), (-672310800, 32400), (-654771600, 36000),
  (-640861200, 32400), (-620298000, 36000), (-609411600, 32400), (-588848400, 36000),
  (-577962000, 32400)]

/-- The changes of Asia/Kolkata. -/
def kolkata : List (Int × Int) :=
  [(-3645237208, 21200), (-3155694800, 19270), (-2019705670, 19800), (-891581400, 23400),
  (-872058600, 19800), (-862637400, 23400), (-764145000, 19800)]

/-- The zones of the table: the name, the first distance, and the changes since. -/
def zones : List (String × Int × List (Int × Int)) :=
  [("UTC", 0, []), ("Etc/UTC", 0, []), ("GMT", 0, []), ("Asia/Tokyo", 33539, tokyo),
    ("Asia/Kolkata", 21208, kolkata), ("Europe/Lisbon", -2205, lisbon), ("Europe/Paris", 561, paris),
    ("America/New_York", -17762, newYork),
    ("America/Argentina/Buenos_Aires", -14028, buenosAires)]

end RowFilter.Civil.ZoneTable
