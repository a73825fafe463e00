import ReleasePage.Time.Zone

/-!
# A zone table

Some zones by name, as a database. Each is given by its offset before the first
change and the changes that follow, as seconds of universal time since 1970 and the
offset from then on.
-/

namespace ReleasePage.Time.Zone

/-- Universal time. -/
def universal : Zone where
  base := 0
  changes := []

/-- Twelve hours behind universal time. -/
def twelveWest : Zone where
  base := -43200
  changes := []

/-- Fourteen hours ahead of universal time. -/
def fourteenEast : Zone where
  base := 50400
  changes := []

/-- Local time of Los Angeles. -/
def losAngeles : Zone where
  base := -28378
  changes := [
    ⟨-2717640000, -28800⟩, ⟨-1633269600, -25200⟩, ⟨-1615129200, -28800⟩, ⟨-1601820000, -25200⟩,
    ⟨-1583679600, -28800⟩, ⟨-880207200, -25200⟩, ⟨-769395600, -25200⟩, ⟨-765385200, -28800⟩,
    ⟨-687967140, -25200⟩, ⟨-662655600, -28800⟩, ⟨-620838000, -25200⟩, ⟨-608137200, -28800⟩,
    ⟨-589388400, -25200⟩, ⟨-576082800, -28800⟩, ⟨-557938800, -25200⟩, ⟨-544633200, -28800⟩,
    ⟨-526489200, -25200⟩, ⟨-513183600, -28800⟩, ⟨-495039600, -25200⟩, ⟨-481734000, -28800⟩,
    ⟨-463590000, -25200⟩, ⟨-450284400, -28800⟩, ⟨-431535600, -25200⟩, ⟨-418230000, -28800⟩,
    ⟨-400086000, -25200⟩, ⟨-386780400, -28800⟩, ⟨-368636400, -25200⟩, ⟨-355330800, -28800⟩,
    ⟨-337186800, -25200⟩, ⟨-323881200, -28800⟩, ⟨-305737200, -25200⟩, ⟨-292431600, -28800⟩,
    ⟨-273682800, -25200⟩, ⟨-260982000, -28800⟩, ⟨-242233200, -25200⟩, ⟨-226508400, -28800⟩,
    ⟨-210783600, -25200⟩, ⟨-195058800, -28800⟩, ⟨-179334000, -25200⟩, ⟨-163609200, -28800⟩,
    ⟨-147884400, -25200⟩, ⟨-131554800, -28800⟩, ⟨-116434800, -25200⟩, ⟨-100105200, -28800⟩,
    ⟨-84376800, -25200⟩, ⟨-68655600, -28800⟩, ⟨-52927200, -25200⟩, ⟨-37206000, -28800⟩,
    ⟨-21477600, -25200⟩, ⟨-5756400, -28800⟩, ⟨9972000, -25200⟩, ⟨25693200, -28800⟩,
    ⟨41421600, -25200⟩, ⟨57747600, -28800⟩, ⟨73476000, -25200⟩, ⟨89197200, -28800⟩,
    ⟨104925600, -25200⟩, ⟨120646800, -28800⟩, ⟨126698400, -25200⟩, ⟨152096400, -28800⟩,
    ⟨162381600, -25200⟩, ⟨183546000, -28800⟩, ⟨199274400, -25200⟩, ⟨215600400, -28800⟩,
    ⟨230724000, -25200⟩, ⟨247050000, -28800⟩, ⟨262778400, -25200⟩, ⟨278499600, -28800⟩,
    ⟨294228000, -25200⟩, ⟨309949200, -28800⟩, ⟨325677600, -25200⟩, ⟨341398800, -28800⟩,
    ⟨357127200, -25200⟩, ⟨372848400, -28800⟩, ⟨388576800, -25200⟩, ⟨404902800, -28800⟩,
    ⟨420026400, -25200⟩, ⟨436352400, -28800⟩, ⟨452080800, -25200⟩, ⟨467802000, -28800⟩,
    ⟨483530400, -25200⟩, ⟨499251600, -28800⟩, ⟨514980000, -25200⟩, ⟨530701200, -28800⟩,
    ⟨544615200, -25200⟩, ⟨562150800, -28800⟩, ⟨576064800, -25200⟩, ⟨594205200, -28800⟩,
    ⟨607514400, -25200⟩, ⟨625654800, -28800⟩, ⟨638964000, -25200⟩, ⟨657104400, -28800⟩,
    ⟨671018400, -25200⟩, ⟨688554000, -28800⟩, ⟨702468000, -25200⟩, ⟨720003600, -28800⟩,
    ⟨733917600, -25200⟩, ⟨752058000, -28800⟩, ⟨765367200, -25200⟩, ⟨783507600, -28800⟩,
    ⟨796816800, -25200⟩, ⟨814957200, -28800⟩, ⟨828871200, -25200⟩, ⟨846406800, -28800⟩,
    ⟨860320800, -25200⟩, ⟨877856400, -28800⟩, ⟨891770400, -25200⟩, ⟨909306000, -28800⟩,
    ⟨923220000, -25200⟩, ⟨941360400, -28800⟩, ⟨954669600, -25200⟩, ⟨972810000, -28800⟩,
    ⟨986119200, -25200⟩, ⟨1004259600, -28800⟩, ⟨1018173600, -25200⟩, ⟨1035709200, -28800⟩,
    ⟨1049623200, -25200⟩, ⟨1067158800, -28800⟩, ⟨1081072800, -25200⟩, ⟨1099213200, -28800⟩,
    ⟨1112522400, -25200⟩, ⟨1130662800, -28800⟩, ⟨1143972000, -25200⟩, ⟨1162112400, -28800⟩,
    ⟨1173607200, -25200⟩, ⟨1194166800, -28800⟩, ⟨1205056800, -25200⟩, ⟨1225616400, -28800⟩,
    ⟨1236506400, -25200⟩, ⟨1257066000, -28800⟩, ⟨1268560800, -25200⟩, ⟨1289120400, -28800⟩,
    ⟨1300010400, -25200⟩, ⟨1320570000, -28800⟩, ⟨1331460000, -25200⟩, ⟨1352019600, -28800⟩,
    ⟨1362909600, -25200⟩, ⟨1383469200, -28800⟩, ⟨1394359200, -25200⟩, ⟨1414918800, -28800⟩,
    ⟨1425808800, -25200⟩, ⟨1446368400, -28800⟩, ⟨1457863200, -25200⟩, ⟨1478422800, -28800⟩,
    ⟨1489312800, -25200⟩, ⟨1509872400, -28800⟩, ⟨1520762400, -25200⟩, ⟨1541322000, -28800⟩,
    ⟨1552212000, -25200⟩, ⟨1572771600, -28800⟩, ⟨1583661600, -25200⟩, ⟨1604221200, -28800⟩,
    ⟨1615716000, -25200⟩, ⟨1636275600, -28800⟩, ⟨1647165600, -25200⟩, ⟨1667725200, -28800⟩,
    ⟨1678615200, -25200⟩, ⟨1699174800, -28800⟩, ⟨1710064800, -25200⟩, ⟨1730624400, -28800⟩,
    ⟨1741514400, -25200⟩, ⟨1762074000, -28800⟩, ⟨1772964000, -25200⟩, ⟨1793523600, -28800⟩,
    ⟨1805018400, -25200⟩, ⟨1825578000, -28800⟩, ⟨1836468000, -25200⟩, ⟨1857027600, -28800⟩,
    ⟨1867917600, -25200⟩, ⟨1888477200, -28800⟩, ⟨1899367200, -25200⟩, ⟨1919926800, -28800⟩,
    ⟨1930816800, -25200⟩, ⟨1951376400, -28800⟩, ⟨1962871200, -25200⟩, ⟨1983430800, -28800⟩,
    ⟨1994320800, -25200⟩, ⟨2014880400, -28800⟩, ⟨2025770400, -25200⟩, ⟨2046330000, -28800⟩,
    ⟨2057220000, -25200⟩, ⟨2077779600, -28800⟩, ⟨2088669600, -25200⟩, ⟨2109229200, -28800⟩,
    ⟨2120119200, -25200⟩, ⟨2140678800, -28800⟩, ⟨2152173600, -25200⟩, ⟨2172733200, -28800⟩,
    ⟨2183623200, -25200⟩, ⟨2204182800, -28800⟩, ⟨2215072800, -25200⟩, ⟨2235632400, -28800⟩,
    ⟨2246522400, -25200⟩, ⟨2267082000, -28800⟩, ⟨2277972000, -25200⟩, ⟨2298531600, -28800⟩,
    ⟨2309421600, -25200⟩, ⟨2329981200, -28800⟩, ⟨2341476000, -25200⟩, ⟨2362035600, -28800⟩,
    ⟨2372925600, -25200⟩, ⟨2393485200, -28800⟩, ⟨2404375200, -25200⟩, ⟨2424934800, -28800⟩,
    ⟨2435824800, -25200⟩, ⟨2456384400, -28800⟩, ⟨2467274400, -25200⟩, ⟨2487834000, -28800⟩,
    ⟨2499328800, -25200⟩, ⟨2519888400, -28800⟩, ⟨2530778400, -25200⟩, ⟨2551338000, -28800⟩,
    ⟨2562228000, -25200⟩, ⟨2582787600, -28800⟩, ⟨2593677600, -25200⟩, ⟨2614237200, -28800⟩,
    ⟨2625127200, -25200⟩, ⟨2645686800, -28800⟩, ⟨2656576800, -25200⟩, ⟨2677136400, -28800⟩,
    ⟨2688631200, -25200⟩, ⟨2709190800, -28800⟩, ⟨2720080800, -25200⟩, ⟨2740640400, -28800⟩,
    ⟨2751530400, -25200⟩, ⟨2772090000, -28800⟩, ⟨2782980000, -25200⟩, ⟨2803539600, -28800⟩,
    ⟨2814429600, -25200⟩, ⟨2834989200, -28800⟩, ⟨2846484000, -25200⟩, ⟨2867043600, -28800⟩,
    ⟨2877933600, -25200⟩, ⟨2898493200, -28800⟩, ⟨2909383200, -25200⟩, ⟨2929942800, -28800⟩,
    ⟨2940832800, -25200⟩, ⟨2961392400, -28800⟩, ⟨2972282400, -25200⟩, ⟨2992842000, -28800⟩,
    ⟨3003732000, -25200⟩, ⟨3024291600, -28800⟩, ⟨3035786400, -25200⟩, ⟨3056346000, -28800⟩,
    ⟨3067236000, -25200⟩, ⟨3087795600, -28800⟩, ⟨3098685600, -25200⟩, ⟨3119245200, -28800⟩,
    ⟨3130135200, -25200⟩, ⟨3150694800, -28800⟩, ⟨3161584800, -25200⟩, ⟨3182144400, -28800⟩,
    ⟨3193034400, -25200⟩, ⟨3213594000, -28800⟩, ⟨3225088800, -25200⟩, ⟨3245648400, -28800⟩,
    ⟨3256538400, -25200⟩, ⟨3277098000, -28800⟩, ⟨3287988000, -25200⟩, ⟨3308547600, -28800⟩,
    ⟨3319437600, -25200⟩, ⟨3339997200, -28800⟩, ⟨3350887200, -25200⟩, ⟨3371446800, -28800⟩,
    ⟨3382941600, -25200⟩, ⟨3403501200, -28800⟩, ⟨3414391200, -25200⟩, ⟨3434950800, -28800⟩,
    ⟨3445840800, -25200⟩, ⟨3466400400, -28800⟩, ⟨3477290400, -25200⟩, ⟨3497850000, -28800⟩,
    ⟨3508740000, -25200⟩, ⟨3529299600, -28800⟩, ⟨3540189600, -25200⟩, ⟨3560749200, -28800⟩,
    ⟨3572244000, -25200⟩, ⟨3592803600, -28800⟩, ⟨3603693600, -25200⟩, ⟨3624253200, -28800⟩,
    ⟨3635143200, -25200⟩, ⟨3655702800, -28800⟩, ⟨3666592800, -25200⟩, ⟨3687152400, -28800⟩,
    ⟨3698042400, -25200⟩, ⟨3718602000, -28800⟩, ⟨3730096800, -25200⟩, ⟨3750656400, -28800⟩,
    ⟨3761546400, -25200⟩, ⟨3782106000, -28800⟩, ⟨3792996000, -25200⟩, ⟨3813555600, -28800⟩,
    ⟨3824445600, -25200⟩, ⟨3845005200, -28800⟩, ⟨3855895200, -25200⟩, ⟨3876454800, -28800⟩,
    ⟨3887344800, -25200⟩, ⟨3907904400, -28800⟩, ⟨3919399200, -25200⟩, ⟨3939958800, -28800⟩,
    ⟨3950848800, -25200⟩, ⟨3971408400, -28800⟩, ⟨3982298400, -25200⟩, ⟨4002858000, -28800⟩,
    ⟨4013748000, -25200⟩, ⟨4034307600, -28800⟩, ⟨4045197600, -25200⟩, ⟨4065757200, -28800⟩,
    ⟨4076647200, -25200⟩, ⟨4097206800, -28800⟩]

/-- Local time of New York. -/
def newYork : Zone where
  base := -17762
  changes := [
    ⟨-2717650800, -18000⟩, ⟨-1633280400, -14400⟩, ⟨-1615140000, -18000⟩, ⟨-1601830800, -14400⟩,
    ⟨-1583690400, -18000⟩, ⟨-1570381200, -14400⟩, ⟨-1551636000, -18000⟩, ⟨-1536512400, -14400⟩,
    ⟨-1523210400, -18000⟩, ⟨-1504458000, -14400⟩, ⟨-1491760800, -18000⟩, ⟨-1473008400, -14400⟩,
    ⟨-1459706400, -18000⟩, ⟨-1441558800, -14400⟩, ⟨-1428256800, -18000⟩, ⟨-1410109200, -14400⟩,
    ⟨-1396807200, -18000⟩, ⟨-1378659600, -14400⟩, ⟨-1365357600, -18000⟩, ⟨-1347210000, -14400⟩,
    ⟨-1333908000, -18000⟩, ⟨-1315155600, -14400⟩, ⟨-1301853600, -18000⟩, ⟨-1283706000, -14400⟩,
    ⟨-1270404000, -18000⟩, ⟨-1252256400, -14400⟩, ⟨-1238954400, -18000⟩, ⟨-1220806800, -14400⟩,
    ⟨-1207504800, -18000⟩, ⟨-1189357200, -14400⟩, ⟨-1176055200, -18000⟩, ⟨-1157302800, -14400⟩,
    ⟨-1144605600, -18000⟩, ⟨-1125853200, -14400⟩, ⟨-1112551200, -18000⟩, ⟨-1094403600, -14400⟩,
    ⟨-1081101600, -18000⟩, ⟨-1062954000, -14400⟩, ⟨-1049652000, -18000⟩, ⟨-1031504400, -14400⟩,
    ⟨-1018202400, -18000⟩, ⟨-1000054800, -14400⟩, ⟨-986752800, -18000⟩, ⟨-968000400, -14400⟩,
    ⟨-955303200, -18000⟩, ⟨-936550800, -14400⟩, ⟨-923248800, -18000⟩, ⟨-905101200, -14400⟩,
    ⟨-891799200, -18000⟩, ⟨-880218000, -14400⟩, ⟨-769395600, -14400⟩, ⟨-765396000, -18000⟩,
    ⟨-747248400, -14400⟩, ⟨-733946400, -18000⟩, ⟨-715798800, -14400⟩, ⟨-702496800, -18000⟩,
    ⟨-684349200, -14400⟩, ⟨-671047200, -18000⟩, ⟨-652899600, -14400⟩, ⟨-639597600, -18000⟩,
    ⟨-620845200, -14400⟩, ⟨-608148000, -18000⟩, ⟨-589395600, -14400⟩, ⟨-576093600, -18000⟩,
    ⟨-557946000, -14400⟩, ⟨-544644000, -18000⟩, ⟨-526496400, -14400⟩, ⟨-513194400, -18000⟩,
    ⟨-495046800, -14400⟩, ⟨-481744800, -18000⟩, ⟨-463597200, -14400⟩, ⟨-447271200, -18000⟩,
    ⟨-431542800, -14400⟩, ⟨-415821600, -18000⟩, ⟨-400093200, -14400⟩, ⟨-384372000, -18000⟩,
    ⟨-368643600, -14400⟩, ⟨-352922400, -18000⟩, ⟨-337194000, -14400⟩, ⟨-321472800, -18000⟩,
    ⟨-305744400, -14400⟩, ⟨-289418400, -18000⟩, ⟨-273690000, -14400⟩, ⟨-257968800, -18000⟩,
    ⟨-242240400, -14400⟩, ⟨-226519200, -18000⟩, ⟨-210790800, -14400⟩, ⟨-195069600, -18000⟩,
    ⟨-179341200, -14400⟩, ⟨-163620000, -18000⟩, ⟨-147891600, -14400⟩, ⟨-131565600, -18000⟩,
    ⟨-116442000, -14400⟩, ⟨-100116000, -18000⟩, ⟨-84387600, -14400⟩, ⟨-68666400, -18000⟩,
    ⟨-52938000, -14400⟩, ⟨-37216800, -18000⟩, ⟨-21488400, -14400⟩, ⟨-5767200, -18000⟩,
    ⟨9961200, -14400⟩, ⟨25682400, -18000⟩, ⟨41410800, -14400⟩, ⟨57736800, -18000⟩,
    ⟨73465200, -14400⟩, ⟨89186400, -18000⟩, ⟨104914800, -14400⟩, ⟨120636000, -18000⟩,
    ⟨126687600, -14400⟩, ⟨152085600, -18000⟩, ⟨162370800, -14400⟩, ⟨183535200, -18000⟩,
    ⟨199263600, -14400⟩, ⟨215589600, -18000⟩, ⟨230713200, -14400⟩, ⟨247039200, -18000⟩,
    ⟨262767600, -14400⟩, ⟨278488800, -18000⟩, ⟨294217200, -14400⟩, ⟨309938400, -18000⟩,
    ⟨325666800, -14400⟩, ⟨341388000, -18000⟩, ⟨357116400, -14400⟩, ⟨372837600, -18000⟩,
    ⟨388566000, -14400⟩, ⟨404892000, -18000⟩, ⟨420015600, -14400⟩, ⟨436341600, -18000⟩,
    ⟨452070000, -14400⟩, ⟨467791200, -18000⟩, ⟨483519600, -14400⟩, ⟨499240800, -18000⟩,
    ⟨514969200, -14400⟩, ⟨530690400, -18000⟩, ⟨544604400, -14400⟩, ⟨562140000, -18000⟩,
    ⟨576054000, -14400⟩, ⟨594194400, -18000⟩, ⟨607503600, -14400⟩, ⟨625644000, -18000⟩,
    ⟨638953200, -14400⟩, ⟨657093600, -18000⟩, ⟨671007600, -14400⟩, ⟨688543200, -18000⟩,
    ⟨702457200, -14400⟩, ⟨719992800, -18000⟩, ⟨733906800, -14400⟩, ⟨752047200, -18000⟩,
    ⟨765356400, -14400⟩, ⟨783496800, -18000⟩, ⟨796806000, -14400⟩, ⟨814946400, -18000⟩,
    ⟨828860400, -14400⟩, ⟨846396000, -18000⟩, ⟨860310000, -14400⟩, ⟨877845600, -18000⟩,
    ⟨891759600, -14400⟩, ⟨909295200, -18000⟩, ⟨923209200, -14400⟩, ⟨941349600, -18000⟩,
    ⟨954658800, -14400⟩, ⟨972799200, -18000⟩, ⟨986108400, -14400⟩, ⟨1004248800, -18000⟩,
    ⟨1018162800, -14400⟩, ⟨1035698400, -18000⟩, ⟨1049612400, -14400⟩, ⟨1067148000, -18000⟩,
    ⟨1081062000, -14400⟩, ⟨1099202400, -18000⟩, ⟨1112511600, -14400⟩, ⟨1130652000, -18000⟩,
    ⟨1143961200, -14400⟩, ⟨1162101600, -18000⟩, ⟨1173596400, -14400⟩, ⟨1194156000, -18000⟩,
    ⟨1205046000, -14400⟩, ⟨1225605600, -18000⟩, ⟨1236495600, -14400⟩, ⟨1257055200, -18000⟩,
    ⟨1268550000, -14400⟩, ⟨1289109600, -18000⟩, ⟨1299999600, -14400⟩, ⟨1320559200, -18000⟩,
    ⟨1331449200, -14400⟩, ⟨1352008800, -18000⟩, ⟨1362898800, -14400⟩, ⟨1383458400, -18000⟩,
    ⟨1394348400, -14400⟩, ⟨1414908000, -18000⟩, ⟨1425798000, -14400⟩, ⟨1446357600, -18000⟩,
    ⟨1457852400, -14400⟩, ⟨1478412000, -18000⟩, ⟨1489302000, -14400⟩, ⟨1509861600, -18000⟩,
    ⟨1520751600, -14400⟩, ⟨1541311200, -18000⟩, ⟨1552201200, -14400⟩, ⟨1572760800, -18000⟩,
    ⟨1583650800, -14400⟩, ⟨1604210400, -18000⟩, ⟨1615705200, -14400⟩, ⟨1636264800, -18000⟩,
    ⟨1647154800, -14400⟩, ⟨1667714400, -18000⟩, ⟨1678604400, -14400⟩, ⟨1699164000, -18000⟩,
    ⟨1710054000, -14400⟩, ⟨1730613600, -18000⟩, ⟨1741503600, -14400⟩, ⟨1762063200, -18000⟩,
    ⟨1772953200, -14400⟩, ⟨1793512800, -18000⟩, ⟨1805007600, -14400⟩, ⟨1825567200, -18000⟩,
    ⟨1836457200, -14400⟩, ⟨1857016800, -18000⟩, ⟨1867906800, -14400⟩, ⟨1888466400, -18000⟩,
    ⟨1899356400, -14400⟩, ⟨1919916000, -18000⟩, ⟨1930806000, -14400⟩, ⟨1951365600, -18000⟩,
    ⟨1962860400, -14400⟩, ⟨1983420000, -18000⟩, ⟨1994310000, -14400⟩, ⟨2014869600, -18000⟩,
    ⟨2025759600, -14400⟩, ⟨2046319200, -18000⟩, ⟨2057209200, -14400⟩, ⟨2077768800, -18000⟩,
    ⟨2088658800, -14400⟩, ⟨2109218400, -18000⟩, ⟨2120108400, -14400⟩, ⟨2140668000, -18000⟩,
    ⟨2152162800, -14400⟩, ⟨2172722400, -18000⟩, ⟨2183612400, -14400⟩, ⟨2204172000, -18000⟩,
    ⟨2215062000, -14400⟩, ⟨2235621600, -18000⟩, ⟨2246511600, -14400⟩, ⟨2267071200, -18000⟩,
    ⟨2277961200, -14400⟩, ⟨2298520800, -18000⟩, ⟨2309410800, -14400⟩, ⟨2329970400, -18000⟩,
    ⟨2341465200, -14400⟩, ⟨2362024800, -18000⟩, ⟨2372914800, -14400⟩, ⟨2393474400, -18000⟩,
    ⟨2404364400, -14400⟩, ⟨2424924000, -18000⟩, ⟨2435814000, -14400⟩, ⟨2456373600, -18000⟩,
    ⟨2467263600, -14400⟩, ⟨2487823200, -18000⟩, ⟨2499318000, -14400⟩, ⟨2519877600, -18000⟩,
    ⟨2530767600, -14400⟩, ⟨2551327200, -18000⟩, ⟨2562217200, -14400⟩, ⟨2582776800, -18000⟩,
    ⟨2593666800, -14400⟩, ⟨2614226400, -18000⟩, ⟨2625116400, -14400⟩, ⟨2645676000, -18000⟩,
    ⟨2656566000, -14400⟩, ⟨2677125600, -18000⟩, ⟨2688620400, -14400⟩, ⟨2709180000, -18000⟩,
    ⟨2720070000, -14400⟩, ⟨2740629600, -18000⟩, ⟨2751519600, -14400⟩, ⟨2772079200, -18000⟩,
    ⟨2782969200, -14400⟩, ⟨2803528800, -18000⟩, ⟨2814418800, -14400⟩, ⟨2834978400, -18000⟩,
    ⟨2846473200, -14400⟩, ⟨2867032800, -18000⟩, ⟨2877922800, -14400⟩, ⟨2898482400, -18000⟩,
    ⟨2909372400, -14400⟩, ⟨2929932000, -18000⟩, ⟨2940822000, -14400⟩, ⟨2961381600, -18000⟩,
    ⟨2972271600, -14400⟩, ⟨2992831200, -18000⟩, ⟨3003721200, -14400⟩, ⟨3024280800, -18000⟩,
    ⟨3035775600, -14400⟩, ⟨3056335200, -18000⟩, ⟨3067225200, -14400⟩, ⟨3087784800, -18000⟩,
    ⟨3098674800, -14400⟩, ⟨3119234400, -18000⟩, ⟨3130124400, -14400⟩, ⟨3150684000, -18000⟩,
    ⟨3161574000, -14400⟩, ⟨3182133600, -18000⟩, ⟨3193023600, -14400⟩, ⟨3213583200, -18000⟩,
    ⟨3225078000, -14400⟩, ⟨3245637600, -18000⟩, ⟨3256527600, -14400⟩, ⟨3277087200, -18000⟩,
    ⟨3287977200, -14400⟩, ⟨3308536800, -18000⟩, ⟨3319426800, -14400⟩, ⟨3339986400, -18000⟩,
    ⟨3350876400, -14400⟩, ⟨3371436000, -18000⟩, ⟨3382930800, -14400⟩, ⟨3403490400, -18000⟩,
    ⟨3414380400, -14400⟩, ⟨3434940000, -18000⟩, ⟨3445830000, -14400⟩, ⟨3466389600, -18000⟩,
    ⟨3477279600, -14400⟩, ⟨3497839200, -18000⟩, ⟨3508729200, -14400⟩, ⟨3529288800, -18000⟩,
    ⟨3540178800, -14400⟩, ⟨3560738400, -18000⟩, ⟨3572233200, -14400⟩, ⟨3592792800, -18000⟩,
    ⟨3603682800, -14400⟩, ⟨3624242400, -18000⟩, ⟨3635132400, -14400⟩, ⟨3655692000, -18000⟩,
    ⟨3666582000, -14400⟩, ⟨3687141600, -18000⟩, ⟨3698031600, -14400⟩, ⟨3718591200, -18000⟩,
    ⟨3730086000, -14400⟩, ⟨3750645600, -18000⟩, ⟨3761535600, -14400⟩, ⟨3782095200, -18000⟩,
    ⟨3792985200, -14400⟩, ⟨3813544800, -18000⟩, ⟨3824434800, -14400⟩, ⟨3844994400, -18000⟩,
    ⟨3855884400, -14400⟩, ⟨3876444000, -18000⟩, ⟨3887334000, -14400⟩, ⟨3907893600, -18000⟩,
    ⟨3919388400, -14400⟩, ⟨3939948000, -18000⟩, ⟨3950838000, -14400⟩, ⟨3971397600, -18000⟩,
    ⟨3982287600, -14400⟩, ⟨4002847200, -18000⟩, ⟨4013737200, -14400⟩, ⟨4034296800, -18000⟩,
    ⟨4045186800, -14400⟩, ⟨4065746400, -18000⟩, ⟨4076636400, -14400⟩, ⟨4097196000, -18000⟩]

/-- Local time of Berlin. -/
def berlin : Zone where
  base := 3208
  changes := [
    ⟨-2422054408, 3600⟩, ⟨-1693706400, 7200⟩, ⟨-1680483600, 3600⟩, ⟨-1663455600, 7200⟩,
    ⟨-1650150000, 3600⟩, ⟨-1632006000, 7200⟩, ⟨-1618700400, 3600⟩, ⟨-938905200, 7200⟩,
    ⟨-857257200, 3600⟩, ⟨-844556400, 7200⟩, ⟨-828226800, 3600⟩, ⟨-812502000, 7200⟩,
    ⟨-796777200, 3600⟩, ⟨-781052400, 7200⟩, ⟨-776563200, 10800⟩, ⟨-765936000, 7200⟩,
    ⟨-761180400, 3600⟩, ⟨-748479600, 7200⟩, ⟨-733273200, 3600⟩, ⟨-717631200, 7200⟩,
    ⟨-714610800, 10800⟩, ⟨-710380800, 7200⟩, ⟨-701910000, 3600⟩, ⟨-684975600, 7200⟩,
    ⟨-670460400, 3600⟩, ⟨-654130800, 7200⟩, ⟨-639010800, 3600⟩, ⟨323830800, 7200⟩,
    ⟨338950800, 3600⟩, ⟨354675600, 7200⟩, ⟨370400400, 3600⟩, ⟨386125200, 7200⟩, ⟨401850000, 3600⟩,
    ⟨417574800, 7200⟩, ⟨433299600, 3600⟩, ⟨449024400, 7200⟩, ⟨465354000, 3600⟩, ⟨481078800, 7200⟩,
    ⟨496803600, 3600⟩, ⟨512528400, 7200⟩, ⟨528253200, 3600⟩, ⟨543978000, 7200⟩, ⟨559702800, 3600⟩,
    ⟨575427600, 7200⟩, ⟨591152400, 3600⟩, ⟨606877200, 7200⟩, ⟨622602000, 3600⟩, ⟨638326800, 7200⟩,
    ⟨654656400, 3600⟩, ⟨670381200, 7200⟩, ⟨686106000, 3600⟩, ⟨701830800, 7200⟩, ⟨717555600, 3600⟩,
    ⟨733280400, 7200⟩, ⟨749005200, 3600⟩, ⟨764730000, 7200⟩, ⟨780454800, 3600⟩, ⟨796179600, 7200⟩,
    ⟨811904400, 3600⟩, ⟨828234000, 7200⟩, ⟨846378000, 3600⟩, ⟨859683600, 7200⟩, ⟨877827600, 3600⟩,
    ⟨891133200, 7200⟩, ⟨909277200, 3600⟩, ⟨922582800, 7200⟩, ⟨941331600, 3600⟩, ⟨954032400, 7200⟩,
    ⟨972781200, 3600⟩, ⟨985482000, 7200⟩, ⟨1004230800, 3600⟩, ⟨1017536400, 7200⟩,
    ⟨1035680400, 3600⟩, ⟨1048986000, 7200⟩, ⟨1067130000, 3600⟩, ⟨1080435600, 7200⟩,
    ⟨1099184400, 3600⟩, ⟨1111885200, 7200⟩, ⟨1130634000, 3600⟩, ⟨1143334800, 7200⟩,
    ⟨1162083600, 3600⟩, ⟨1174784400, 7200⟩, ⟨1193533200, 3600⟩, ⟨1206838800, 7200⟩,
    ⟨1224982800, 3600⟩, ⟨1238288400, 7200⟩, ⟨1256432400, 3600⟩, ⟨1269738000, 7200⟩,
    ⟨1288486800, 3600⟩, ⟨1301187600, 7200⟩, ⟨1319936400, 3600⟩, ⟨1332637200, 7200⟩,
    ⟨1351386000, 3600⟩, ⟨1364691600, 7200⟩, ⟨1382835600, 3600⟩, ⟨1396141200, 7200⟩,
    ⟨1414285200, 3600⟩, ⟨1427590800, 7200⟩, ⟨1445734800, 3600⟩, ⟨1459040400, 7200⟩,
    ⟨1477789200, 3600⟩, ⟨1490490000, 7200⟩, ⟨1509238800, 3600⟩, ⟨1521939600, 7200⟩,
    ⟨1540688400, 3600⟩, ⟨1553994000, 7200⟩, ⟨1572138000, 3600⟩, ⟨1585443600, 7200⟩,
    ⟨1603587600, 3600⟩, ⟨1616893200, 7200⟩, ⟨1635642000, 3600⟩, ⟨1648342800, 7200⟩,
    ⟨1667091600, 3600⟩, ⟨1679792400, 7200⟩, ⟨1698541200, 3600⟩, ⟨1711846800, 7200⟩,
    ⟨1729990800, 3600⟩, ⟨1743296400, 7200⟩, ⟨1761440400, 3600⟩, ⟨1774746000, 7200⟩,
    ⟨1792890000, 3600⟩, ⟨1806195600, 7200⟩, ⟨1824944400, 3600⟩, ⟨1837645200, 7200⟩,
    ⟨1856394000, 3600⟩, ⟨1869094800, 7200⟩, ⟨1887843600, 3600⟩, ⟨1901149200, 7200⟩,
    ⟨1919293200, 3600⟩, ⟨1932598800, 7200⟩, ⟨1950742800, 3600⟩, ⟨1964048400, 7200⟩,
    ⟨1982797200, 3600⟩, ⟨1995498000, 7200⟩, ⟨2014246800, 3600⟩, ⟨2026947600, 7200⟩,
    ⟨2045696400, 3600⟩, ⟨2058397200, 7200⟩, ⟨2077146000, 3600⟩, ⟨2090451600, 7200⟩,
    ⟨2108595600, 3600⟩, ⟨2121901200, 7200⟩, ⟨2140045200, 3600⟩, ⟨2153350800, 7200⟩,
    ⟨2172099600, 3600⟩, ⟨2184800400, 7200⟩, ⟨2203549200, 3600⟩, ⟨2216250000, 7200⟩,
    ⟨2234998800, 3600⟩, ⟨2248304400, 7200⟩, ⟨2266448400, 3600⟩, ⟨2279754000, 7200⟩,
    ⟨2297898000, 3600⟩, ⟨2311203600, 7200⟩, ⟨2329347600, 3600⟩, ⟨2342653200, 7200⟩,
    ⟨2361402000, 3600⟩, ⟨2374102800, 7200⟩, ⟨2392851600, 3600⟩, ⟨2405552400, 7200⟩,
    ⟨2424301200, 3600⟩, ⟨2437606800, 7200⟩, ⟨2455750800, 3600⟩, ⟨2469056400, 7200⟩,
    ⟨2487200400, 3600⟩, ⟨2500506000, 7200⟩, ⟨2519254800, 3600⟩, ⟨2531955600, 7200⟩,
    ⟨2550704400, 3600⟩, ⟨2563405200, 7200⟩, ⟨2582154000, 3600⟩, ⟨2595459600, 7200⟩,
    ⟨2613603600, 3600⟩, ⟨2626909200, 7200⟩, ⟨2645053200, 3600⟩, ⟨2658358800, 7200⟩,
    ⟨2676502800, 3600⟩, ⟨2689808400, 7200⟩, ⟨2708557200, 3600⟩, ⟨2721258000, 7200⟩,
    ⟨2740006800, 3600⟩, ⟨2752707600, 7200⟩, ⟨2771456400, 3600⟩, ⟨2784762000, 7200⟩,
    ⟨2802906000, 3600⟩, ⟨2816211600, 7200⟩, ⟨2834355600, 3600⟩, ⟨2847661200, 7200⟩,
    ⟨2866410000, 3600⟩, ⟨2879110800, 7200⟩, ⟨2897859600, 3600⟩, ⟨2910560400, 7200⟩,
    ⟨2929309200, 3600⟩, ⟨2942010000, 7200⟩, ⟨2960758800, 3600⟩, ⟨2974064400, 7200⟩,
    ⟨2992208400, 3600⟩, ⟨3005514000, 7200⟩, ⟨3023658000, 3600⟩, ⟨3036963600, 7200⟩,
    ⟨3055712400, 3600⟩, ⟨3068413200, 7200⟩, ⟨3087162000, 3600⟩, ⟨3099862800, 7200⟩,
    ⟨3118611600, 3600⟩, ⟨3131917200, 7200⟩, ⟨3150061200, 3600⟩, ⟨3163366800, 7200⟩,
    ⟨3181510800, 3600⟩, ⟨3194816400, 7200⟩, ⟨3212960400, 3600⟩, ⟨3226266000, 7200⟩,
    ⟨3245014800, 3600⟩, ⟨3257715600, 7200⟩, ⟨3276464400, 3600⟩, ⟨3289165200, 7200⟩,
    ⟨3307914000, 3600⟩, ⟨3321219600, 7200⟩, ⟨3339363600, 3600⟩, ⟨3352669200, 7200⟩,
    ⟨3370813200, 3600⟩, ⟨3384118800, 7200⟩, ⟨3402867600, 3600⟩, ⟨3415568400, 7200⟩,
    ⟨3434317200, 3600⟩, ⟨3447018000, 7200⟩, ⟨3465766800, 3600⟩, ⟨3479072400, 7200⟩,
    ⟨3497216400, 3600⟩, ⟨3510522000, 7200⟩, ⟨3528666000, 3600⟩, ⟨3541971600, 7200⟩,
    ⟨3560115600, 3600⟩, ⟨3573421200, 7200⟩, ⟨3592170000, 3600⟩, ⟨3604870800, 7200⟩,
    ⟨3623619600, 3600⟩, ⟨3636320400, 7200⟩, ⟨3655069200, 3600⟩, ⟨3668374800, 7200⟩,
    ⟨3686518800, 3600⟩, ⟨3699824400, 7200⟩, ⟨3717968400, 3600⟩, ⟨3731274000, 7200⟩,
    ⟨3750022800, 3600⟩, ⟨3762723600, 7200⟩, ⟨3781472400, 3600⟩, ⟨3794173200, 7200⟩,
    ⟨3812922000, 3600⟩, ⟨3825622800, 7200⟩, ⟨3844371600, 3600⟩, ⟨3857677200, 7200⟩,
    ⟨3875821200, 3600⟩, ⟨3889126800, 7200⟩, ⟨3907270800, 3600⟩, ⟨3920576400, 7200⟩,
    ⟨3939325200, 3600⟩, ⟨3952026000, 7200⟩, ⟨3970774800, 3600⟩, ⟨3983475600, 7200⟩,
    ⟨4002224400, 3600⟩, ⟨4015530000, 7200⟩, ⟨4033674000, 3600⟩, ⟨4046979600, 7200⟩,
    ⟨4065123600, 3600⟩, ⟨4078429200, 7200⟩, ⟨4096573200, 3600⟩]

/-- Local time of Kolkata. -/
def kolkata : Zone where
  base := 21208
  changes := [
    ⟨-3645237208, 21200⟩, ⟨-3155694800, 19270⟩, ⟨-2019705670, 19800⟩, ⟨-891581400, 23400⟩,
    ⟨-872058600, 19800⟩, ⟨-862637400, 23400⟩, ⟨-764145000, 19800⟩]

/-- Local time of Kathmandu. -/
def kathmandu : Zone where
  base := 20476
  changes := [
    ⟨-1577943676, 19800⟩, ⟨504901800, 20700⟩]

/-- Local time of Tokyo. -/
def tokyo : Zone where
  base := 33539
  changes := [
    ⟨-2587712400, 32400⟩, ⟨-683802000, 36000⟩, ⟨-672310800, 32400⟩, ⟨-654771600, 36000⟩,
    ⟨-640861200, 32400⟩, ⟨-620298000, 36000⟩, ⟨-609411600, 32400⟩, ⟨-588848400, 36000⟩,
    ⟨-577962000, 32400⟩]

/-- Local time of Apia. -/
def apia : Zone where
  base := 45184
  changes := [
    ⟨-2445424384, -41216⟩, ⟨-1861878784, -41400⟩, ⟨-631110600, -39600⟩, ⟨1285498800, -36000⟩,
    ⟨1301752800, -39600⟩, ⟨1316872800, -36000⟩, ⟨1325239200, 50400⟩, ⟨1333202400, 46800⟩,
    ⟨1348927200, 50400⟩, ⟨1365256800, 46800⟩, ⟨1380376800, 50400⟩, ⟨1396706400, 46800⟩,
    ⟨1411826400, 50400⟩, ⟨1428156000, 46800⟩, ⟨1443276000, 50400⟩, ⟨1459605600, 46800⟩,
    ⟨1474725600, 50400⟩, ⟨1491055200, 46800⟩, ⟨1506175200, 50400⟩, ⟨1522504800, 46800⟩,
    ⟨1538229600, 50400⟩, ⟨1554559200, 46800⟩, ⟨1569679200, 50400⟩, ⟨1586008800, 46800⟩,
    ⟨1601128800, 50400⟩, ⟨1617458400, 46800⟩]

/-- Local time of Kiritimati. -/
def kiritimati : Zone where
  base := -37760
  changes := [
    ⟨-2177415040, -38400⟩, ⟨307622400, -36000⟩, ⟨788868000, 50400⟩]

/-- Local time of Lord Howe. -/
def lordHowe : Zone where
  base := 38180
  changes := [
    ⟨-2364114980, 36000⟩, ⟨352216800, 37800⟩, ⟨372785400, 41400⟩, ⟨384273000, 37800⟩,
    ⟨404839800, 41400⟩, ⟨415722600, 37800⟩, ⟨436289400, 41400⟩, ⟨447172200, 37800⟩,
    ⟨467739000, 41400⟩, ⟨478621800, 37800⟩, ⟨499188600, 39600⟩, ⟨511282800, 37800⟩,
    ⟨530033400, 39600⟩, ⟨542732400, 37800⟩, ⟨562087800, 39600⟩, ⟨574786800, 37800⟩,
    ⟨594142200, 39600⟩, ⟨606236400, 37800⟩, ⟨625591800, 39600⟩, ⟨636476400, 37800⟩,
    ⟨657041400, 39600⟩, ⟨667926000, 37800⟩, ⟨688491000, 39600⟩, ⟨699375600, 37800⟩,
    ⟨719940600, 39600⟩, ⟨731430000, 37800⟩, ⟨751995000, 39600⟩, ⟨762879600, 37800⟩,
    ⟨783444600, 39600⟩, ⟨794329200, 37800⟩, ⟨814894200, 39600⟩, ⟨828198000, 37800⟩,
    ⟨846343800, 39600⟩, ⟨859647600, 37800⟩, ⟨877793400, 39600⟩, ⟨891097200, 37800⟩,
    ⟨909243000, 39600⟩, ⟨922546800, 37800⟩, ⟨941297400, 39600⟩, ⟨953996400, 37800⟩,
    ⟨967303800, 39600⟩, ⟨985446000, 37800⟩, ⟨1004196600, 39600⟩, ⟨1017500400, 37800⟩,
    ⟨1035646200, 39600⟩, ⟨1048950000, 37800⟩, ⟨1067095800, 39600⟩, ⟨1080399600, 37800⟩,
    ⟨1099150200, 39600⟩, ⟨1111849200, 37800⟩, ⟨1130599800, 39600⟩, ⟨1143903600, 37800⟩,
    ⟨1162049400, 39600⟩, ⟨1174748400, 37800⟩, ⟨1193499000, 39600⟩, ⟨1207407600, 37800⟩,
    ⟨1223134200, 39600⟩, ⟨1238857200, 37800⟩, ⟨1254583800, 39600⟩, ⟨1270306800, 37800⟩,
    ⟨1286033400, 39600⟩, ⟨1301756400, 37800⟩, ⟨1317483000, 39600⟩, ⟨1333206000, 37800⟩,
    ⟨1349537400, 39600⟩, ⟨1365260400, 37800⟩, ⟨1380987000, 39600⟩, ⟨1396710000, 37800⟩,
    ⟨1412436600, 39600⟩, ⟨1428159600, 37800⟩, ⟨1443886200, 39600⟩, ⟨1459609200, 37800⟩,
    ⟨1475335800, 39600⟩, ⟨1491058800, 37800⟩, ⟨1506785400, 39600⟩, ⟨1522508400, 37800⟩,
    ⟨1538839800, 39600⟩, ⟨1554562800, 37800⟩, ⟨1570289400, 39600⟩, ⟨1586012400, 37800⟩,
    ⟨1601739000, 39600⟩, ⟨1617462000, 37800⟩, ⟨1633188600, 39600⟩, ⟨1648911600, 37800⟩,
    ⟨1664638200, 39600⟩, ⟨1680361200, 37800⟩, ⟨1696087800, 39600⟩, ⟨1712415600, 37800⟩,
    ⟨1728142200, 39600⟩, ⟨1743865200, 37800⟩, ⟨1759591800, 39600⟩, ⟨1775314800, 37800⟩,
    ⟨1791041400, 39600⟩, ⟨1806764400, 37800⟩, ⟨1822491000, 39600⟩, ⟨1838214000, 37800⟩,
    ⟨1853940600, 39600⟩, ⟨1869663600, 37800⟩, ⟨1885995000, 39600⟩, ⟨1901718000, 37800⟩,
    ⟨1917444600, 39600⟩, ⟨1933167600, 37800⟩, ⟨1948894200, 39600⟩, ⟨1964617200, 37800⟩,
    ⟨1980343800, 39600⟩, ⟨1996066800, 37800⟩, ⟨2011793400, 39600⟩, ⟨2027516400, 37800⟩,
    ⟨2043243000, 39600⟩, ⟨2058966000, 37800⟩, ⟨2075297400, 39600⟩, ⟨2091020400, 37800⟩,
    ⟨2106747000, 39600⟩, ⟨2122470000, 37800⟩, ⟨2138196600, 39600⟩, ⟨2153919600, 37800⟩,
    ⟨2169646200, 39600⟩, ⟨2185369200, 37800⟩, ⟨2201095800, 39600⟩, ⟨2216818800, 37800⟩,
    ⟨2233150200, 39600⟩, ⟨2248873200, 37800⟩, ⟨2264599800, 39600⟩, ⟨2280322800, 37800⟩,
    ⟨2296049400, 39600⟩, ⟨2311772400, 37800⟩, ⟨2327499000, 39600⟩, ⟨2343222000, 37800⟩,
    ⟨2358948600, 39600⟩, ⟨2374671600, 37800⟩, ⟨2390398200, 39600⟩, ⟨2406121200, 37800⟩,
    ⟨2422452600, 39600⟩, ⟨2438175600, 37800⟩, ⟨2453902200, 39600⟩, ⟨2469625200, 37800⟩,
    ⟨2485351800, 39600⟩, ⟨2501074800, 37800⟩, ⟨2516801400, 39600⟩, ⟨2532524400, 37800⟩,
    ⟨2548251000, 39600⟩, ⟨2563974000, 37800⟩, ⟨2579700600, 39600⟩, ⟨2596028400, 37800⟩,
    ⟨2611755000, 39600⟩, ⟨2627478000, 37800⟩, ⟨2643204600, 39600⟩, ⟨2658927600, 37800⟩,
    ⟨2674654200, 39600⟩, ⟨2690377200, 37800⟩, ⟨2706103800, 39600⟩, ⟨2721826800, 37800⟩,
    ⟨2737553400, 39600⟩, ⟨2753276400, 37800⟩, ⟨2769607800, 39600⟩, ⟨2785330800, 37800⟩,
    ⟨2801057400, 39600⟩, ⟨2816780400, 37800⟩, ⟨2832507000, 39600⟩, ⟨2848230000, 37800⟩,
    ⟨2863956600, 39600⟩, ⟨2879679600, 37800⟩, ⟨2895406200, 39600⟩, ⟨2911129200, 37800⟩,
    ⟨2926855800, 39600⟩, ⟨2942578800, 37800⟩, ⟨2958910200, 39600⟩, ⟨2974633200, 37800⟩,
    ⟨2990359800, 39600⟩, ⟨3006082800, 37800⟩, ⟨3021809400, 39600⟩, ⟨3037532400, 37800⟩,
    ⟨3053259000, 39600⟩, ⟨3068982000, 37800⟩, ⟨3084708600, 39600⟩, ⟨3100431600, 37800⟩,
    ⟨3116763000, 39600⟩, ⟨3132486000, 37800⟩, ⟨3148212600, 39600⟩, ⟨3163935600, 37800⟩,
    ⟨3179662200, 39600⟩, ⟨3195385200, 37800⟩, ⟨3211111800, 39600⟩, ⟨3226834800, 37800⟩,
    ⟨3242561400, 39600⟩, ⟨3258284400, 37800⟩, ⟨3274011000, 39600⟩, ⟨3289734000, 37800⟩,
    ⟨3306065400, 39600⟩, ⟨3321788400, 37800⟩, ⟨3337515000, 39600⟩, ⟨3353238000, 37800⟩,
    ⟨3368964600, 39600⟩, ⟨3384687600, 37800⟩, ⟨3400414200, 39600⟩, ⟨3416137200, 37800⟩,
    ⟨3431863800, 39600⟩, ⟨3447586800, 37800⟩, ⟨3463313400, 39600⟩, ⟨3479641200, 37800⟩,
    ⟨3495367800, 39600⟩, ⟨3511090800, 37800⟩, ⟨3526817400, 39600⟩, ⟨3542540400, 37800⟩,
    ⟨3558267000, 39600⟩, ⟨3573990000, 37800⟩, ⟨3589716600, 39600⟩, ⟨3605439600, 37800⟩,
    ⟨3621166200, 39600⟩, ⟨3636889200, 37800⟩, ⟨3653220600, 39600⟩, ⟨3668943600, 37800⟩,
    ⟨3684670200, 39600⟩, ⟨3700393200, 37800⟩, ⟨3716119800, 39600⟩, ⟨3731842800, 37800⟩,
    ⟨3747569400, 39600⟩, ⟨3763292400, 37800⟩, ⟨3779019000, 39600⟩, ⟨3794742000, 37800⟩,
    ⟨3810468600, 39600⟩, ⟨3826191600, 37800⟩, ⟨3842523000, 39600⟩, ⟨3858246000, 37800⟩,
    ⟨3873972600, 39600⟩, ⟨3889695600, 37800⟩, ⟨3905422200, 39600⟩, ⟨3921145200, 37800⟩,
    ⟨3936871800, 39600⟩, ⟨3952594800, 37800⟩, ⟨3968321400, 39600⟩, ⟨3984044400, 37800⟩,
    ⟨4000375800, 39600⟩, ⟨4016098800, 37800⟩, ⟨4031825400, 39600⟩, ⟨4047548400, 37800⟩,
    ⟨4063275000, 39600⟩, ⟨4078998000, 37800⟩, ⟨4094724600, 39600⟩]

/-- Local time of Monrovia. -/
def monrovia : Zone where
  base := -2588
  changes := [
    ⟨-2776979812, -2588⟩, ⟨-1604359012, -2670⟩, ⟨63593070, 0⟩]

/-- The zones by name. One of them has two names. -/
def byName : List (String × Zone) := [
  ("UTC", universal),
  ("Etc/GMT+12", twelveWest),
  ("Etc/GMT-14", fourteenEast),
  ("America/Los_Angeles", losAngeles),
  ("US/Pacific", losAngeles),
  ("America/New_York", newYork),
  ("Europe/Berlin", berlin),
  ("Asia/Kolkata", kolkata),
  ("Asia/Kathmandu", kathmandu),
  ("Asia/Tokyo", tokyo),
  ("Pacific/Apia", apia),
  ("Pacific/Kiritimati", kiritimati),
  ("Australia/Lord_Howe", lordHowe),
  ("Africa/Monrovia", monrovia)]

/-- The zones of the table as a database, upper and lower case being different in the
names. -/
instance table : ZoneDatabase := ⟨fun name => byName.lookup name⟩

end ReleasePage.Time.Zone
