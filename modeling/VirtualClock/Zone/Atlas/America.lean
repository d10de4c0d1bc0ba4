import VirtualClock.Zone.Region

/-!
# Regions of America

The history of the offsets of the American regions.
Changes hold a UTC second since the first midnight of year one and the offset from
then on.
-/

namespace VirtualClock.Atlas

def newYork : Region where
  name := "America/New_York"
  initialOffset := west 17762
  changes :=
    [⟨59417946000, west 18000⟩, ⟨60502316400, west 14400⟩, ⟨60520456800, west 18000⟩,
     ⟨60533766000, west 14400⟩, ⟨60551906400, west 18000⟩, ⟨60565215600, west 14400⟩,
     ⟨60583960800, west 18000⟩, ⟨60599084400, west 14400⟩, ⟨60612386400, west 18000⟩,
     ⟨60631138800, west 14400⟩, ⟨60643836000, west 18000⟩, ⟨60662588400, west 14400⟩,
     ⟨60675890400, west 18000⟩, ⟨60694038000, west 14400⟩, ⟨60707340000, west 18000⟩,
     ⟨60725487600, west 14400⟩, ⟨60738789600, west 18000⟩, ⟨60756937200, west 14400⟩,
     ⟨60770239200, west 18000⟩, ⟨60788386800, west 14400⟩, ⟨60801688800, west 18000⟩,
     ⟨60820441200, west 14400⟩, ⟨60833743200, west 18000⟩, ⟨60851890800, west 14400⟩,
     ⟨60865192800, west 18000⟩, ⟨60883340400, west 14400⟩, ⟨60896642400, west 18000⟩,
     ⟨60914790000, west 14400⟩, ⟨60928092000, west 18000⟩, ⟨60946239600, west 14400⟩,
     ⟨60959541600, west 18000⟩, ⟨60978294000, west 14400⟩, ⟨60990991200, west 18000⟩,
     ⟨61009743600, west 14400⟩, ⟨61023045600, west 18000⟩, ⟨61041193200, west 14400⟩,
     ⟨61054495200, west 18000⟩, ⟨61072642800, west 14400⟩, ⟨61085944800, west 18000⟩,
     ⟨61104092400, west 14400⟩, ⟨61117394400, west 18000⟩, ⟨61135542000, west 14400⟩,
     ⟨61148844000, west 18000⟩, ⟨61167596400, west 14400⟩, ⟨61180293600, west 18000⟩,
     ⟨61199046000, west 14400⟩, ⟨61212348000, west 18000⟩, ⟨61230495600, west 14400⟩,
     ⟨61243797600, west 18000⟩, ⟨61255378800, west 14400⟩, ⟨61366201200, west 14400⟩,
     ⟨61370200800, west 18000⟩, ⟨61388348400, west 14400⟩, ⟨61401650400, west 18000⟩,
     ⟨61419798000, west 14400⟩, ⟨61433100000, west 18000⟩, ⟨61451247600, west 14400⟩,
     ⟨61464549600, west 18000⟩, ⟨61482697200, west 14400⟩, ⟨61495999200, west 18000⟩,
     ⟨61514751600, west 14400⟩, ⟨61527448800, west 18000⟩, ⟨61546201200, west 14400⟩,
     ⟨61559503200, west 18000⟩, ⟨61577650800, west 14400⟩, ⟨61590952800, west 18000⟩,
     ⟨61609100400, west 14400⟩, ⟨61622402400, west 18000⟩, ⟨61640550000, west 14400⟩,
     ⟨61653852000, west 18000⟩, ⟨61671999600, west 14400⟩, ⟨61688325600, west 18000⟩,
     ⟨61704054000, west 14400⟩, ⟨61719775200, west 18000⟩, ⟨61735503600, west 14400⟩,
     ⟨61751224800, west 18000⟩, ⟨61766953200, west 14400⟩, ⟨61782674400, west 18000⟩,
     ⟨61798402800, west 14400⟩, ⟨61814124000, west 18000⟩, ⟨61829852400, west 14400⟩,
     ⟨61846178400, west 18000⟩, ⟨61861906800, west 14400⟩, ⟨61877628000, west 18000⟩,
     ⟨61893356400, west 14400⟩, ⟨61909077600, west 18000⟩, ⟨61924806000, west 14400⟩,
     ⟨61940527200, west 18000⟩, ⟨61956255600, west 14400⟩, ⟨61971976800, west 18000⟩,
     ⟨61987705200, west 14400⟩, ⟨62004031200, west 18000⟩, ⟨62019154800, west 14400⟩,
     ⟨62035480800, west 18000⟩, ⟨62051209200, west 14400⟩, ⟨62066930400, west 18000⟩,
     ⟨62082658800, west 14400⟩, ⟨62098380000, west 18000⟩, ⟨62114108400, west 14400⟩,
     ⟨62129829600, west 18000⟩, ⟨62145558000, west 14400⟩, ⟨62161279200, west 18000⟩,
     ⟨62177007600, west 14400⟩, ⟨62193333600, west 18000⟩, ⟨62209062000, west 14400⟩,
     ⟨62224783200, west 18000⟩, ⟨62240511600, west 14400⟩, ⟨62256232800, west 18000⟩,
     ⟨62262284400, west 14400⟩, ⟨62287682400, west 18000⟩, ⟨62297967600, west 14400⟩,
     ⟨62319132000, west 18000⟩, ⟨62334860400, west 14400⟩, ⟨62351186400, west 18000⟩,
     ⟨62366310000, west 14400⟩, ⟨62382636000, west 18000⟩, ⟨62398364400, west 14400⟩,
     ⟨62414085600, west 18000⟩, ⟨62429814000, west 14400⟩, ⟨62445535200, west 18000⟩,
     ⟨62461263600, west 14400⟩, ⟨62476984800, west 18000⟩, ⟨62492713200, west 14400⟩,
     ⟨62508434400, west 18000⟩, ⟨62524162800, west 14400⟩, ⟨62540488800, west 18000⟩,
     ⟨62555612400, west 14400⟩, ⟨62571938400, west 18000⟩, ⟨62587666800, west 14400⟩,
     ⟨62603388000, west 18000⟩, ⟨62619116400, west 14400⟩, ⟨62634837600, west 18000⟩,
     ⟨62650566000, west 14400⟩, ⟨62666287200, west 18000⟩, ⟨62680201200, west 14400⟩,
     ⟨62697736800, west 18000⟩, ⟨62711650800, west 14400⟩, ⟨62729791200, west 18000⟩,
     ⟨62743100400, west 14400⟩, ⟨62761240800, west 18000⟩, ⟨62774550000, west 14400⟩,
     ⟨62792690400, west 18000⟩, ⟨62806604400, west 14400⟩, ⟨62824140000, west 18000⟩,
     ⟨62838054000, west 14400⟩, ⟨62855589600, west 18000⟩, ⟨62869503600, west 14400⟩,
     ⟨62887644000, west 18000⟩, ⟨62900953200, west 14400⟩, ⟨62919093600, west 18000⟩,
     ⟨62932402800, west 14400⟩, ⟨62950543200, west 18000⟩, ⟨62964457200, west 14400⟩,
     ⟨62981992800, west 18000⟩, ⟨62995906800, west 14400⟩, ⟨63013442400, west 18000⟩,
     ⟨63027356400, west 14400⟩, ⟨63044892000, west 18000⟩, ⟨63058806000, west 14400⟩,
     ⟨63076946400, west 18000⟩, ⟨63090255600, west 14400⟩, ⟨63108396000, west 18000⟩,
     ⟨63121705200, west 14400⟩, ⟨63139845600, west 18000⟩, ⟨63153759600, west 14400⟩,
     ⟨63171295200, west 18000⟩, ⟨63185209200, west 14400⟩, ⟨63202744800, west 18000⟩,
     ⟨63216658800, west 14400⟩, ⟨63234799200, west 18000⟩, ⟨63248108400, west 14400⟩,
     ⟨63266248800, west 18000⟩, ⟨63279558000, west 14400⟩, ⟨63297698400, west 18000⟩,
     ⟨63309193200, west 14400⟩]
  rule := ⟨"EST", -18000, some ⟨"EDT", -14400, ⟨3, 2, 0, 7200⟩, ⟨11, 1, 0, 7200⟩⟩⟩

def stJohns : Region where
  name := "America/St_Johns"
  initialOffset := west 12652
  changes :=
    [⟨59421699052, west 12652⟩, ⟨60471466252, west 9052⟩, ⟨60485459452, west 12652⟩,
     ⟨60503520652, west 9052⟩, ⟨60520451452, west 12652⟩, ⟨60536946652, west 9052⟩,
     ⟨60545496652, west 12652⟩, ⟨60568309852, west 9052⟩, ⟨60584031052, west 12652⟩,
     ⟨60599759452, west 9052⟩, ⟨60615480652, west 12652⟩, ⟨60631813852, west 9052⟩,
     ⟨60646930252, west 12652⟩, ⟨60663263452, west 9052⟩, ⟨60678379852, west 12652⟩,
     ⟨60694713052, west 9052⟩, ⟨60709829452, west 12652⟩, ⟨60726162652, west 9052⟩,
     ⟨60741279052, west 12652⟩, ⟨60757612252, west 9052⟩, ⟨60773333452, west 12652⟩,
     ⟨60789061852, west 9052⟩, ⟨60804783052, west 12652⟩, ⟨60821116252, west 9052⟩,
     ⟨60836232652, west 12652⟩, ⟨60852565852, west 9052⟩, ⟨60867682252, west 12652⟩,
     ⟨60884015452, west 9052⟩, ⟨60899131852, west 12652⟩, ⟨60915465052, west 9052⟩,
     ⟨60930581452, west 12652⟩, ⟨60946914652, west 9052⟩, ⟨60962635852, west 12652⟩,
     ⟨60978969052, west 9052⟩, ⟨60994085452, west 12652⟩, ⟨61010418652, west 9052⟩,
     ⟨61025535052, west 12652⟩, ⟨61038675052, west 12600⟩, ⟨61041868200, west 9000⟩,
     ⟨61056984600, west 12600⟩, ⟨61073926200, west 9000⟩, ⟨61086623400, west 12600⟩,
     ⟨61105375800, west 9000⟩, ⟨61118073000, west 12600⟩, ⟨61136825400, west 9000⟩,
     ⟨61149522600, west 12600⟩, ⟨61168879800, west 9000⟩, ⟨61180972200, west 12600⟩,
     ⟨61200329400, west 9000⟩, ⟨61213026600, west 12600⟩, ⟨61231779000, west 9000⟩,
     ⟨61244476200, west 12600⟩, ⟨61263228600, west 9000⟩, ⟨61366201200, west 9000⟩,
     ⟨61370195400, west 12600⟩, ⟨61389552600, west 9000⟩, ⟨61402249800, west 12600⟩,
     ⟨61421002200, west 9000⟩, ⟨61433699400, west 12600⟩, ⟨61452451800, west 9000⟩,
     ⟨61465149000, west 12600⟩, ⟨61483901400, west 9000⟩, ⟨61496598600, west 12600⟩,
     ⟨61515955800, west 9000⟩, ⟨61528653000, west 12600⟩, ⟨61546195800, west 9000⟩,
     ⟨61559497800, west 12600⟩, ⟨61577645400, west 9000⟩, ⟨61590947400, west 12600⟩,
     ⟨61609095000, west 9000⟩, ⟨61622397000, west 12600⟩, ⟨61640544600, west 9000⟩,
     ⟨61653846600, west 12600⟩, ⟨61671994200, west 9000⟩, ⟨61685296200, west 12600⟩,
     ⟨61704048600, west 9000⟩, ⟨61717350600, west 12600⟩, ⟨61735498200, west 9000⟩,
     ⟨61748800200, west 12600⟩, ⟨61766947800, west 9000⟩, ⟨61780249800, west 12600⟩,
     ⟨61798397400, west 9000⟩, ⟨61811699400, west 12600⟩, ⟨61829847000, west 9000⟩,
     ⟨61846173000, west 12600⟩, ⟨61861901400, west 9000⟩, ⟨61877622600, west 12600⟩,
     ⟨61893351000, west 9000⟩, ⟨61909072200, west 12600⟩, ⟨61924800600, west 9000⟩,
     ⟨61940521800, west 12600⟩, ⟨61956250200, west 9000⟩, ⟨61971971400, west 12600⟩,
     ⟨61987699800, west 9000⟩, ⟨62004025800, west 12600⟩, ⟨62019149400, west 9000⟩,
     ⟨62035475400, west 12600⟩, ⟨62051203800, west 9000⟩, ⟨62066925000, west 12600⟩,
     ⟨62082653400, west 9000⟩, ⟨62098374600, west 12600⟩, ⟨62114103000, west 9000⟩,
     ⟨62129824200, west 12600⟩, ⟨62145552600, west 9000⟩, ⟨62161273800, west 12600⟩,
     ⟨62177002200, west 9000⟩, ⟨62193328200, west 12600⟩, ⟨62209056600, west 9000⟩,
     ⟨62224777800, west 12600⟩, ⟨62240506200, west 9000⟩, ⟨62256227400, west 12600⟩,
     ⟨62271955800, west 9000⟩, ⟨62287677000, west 12600⟩, ⟨62303405400, west 9000⟩,
     ⟨62319126600, west 12600⟩, ⟨62334855000, west 9000⟩, ⟨62351181000, west 12600⟩,
     ⟨62366304600, west 9000⟩, ⟨62382630600, west 12600⟩, ⟨62398359000, west 9000⟩,
     ⟨62414080200, west 12600⟩, ⟨62429808600, west 9000⟩, ⟨62445529800, west 12600⟩,
     ⟨62461258200, west 9000⟩, ⟨62476979400, west 12600⟩, ⟨62492707800, west 9000⟩,
     ⟨62508429000, west 12600⟩, ⟨62524157400, west 9000⟩, ⟨62540483400, west 12600⟩,
     ⟨62555607000, west 9000⟩, ⟨62571933000, west 12600⟩, ⟨62587661400, west 9000⟩,
     ⟨62603382600, west 12600⟩, ⟨62619111000, west 9000⟩, ⟨62634832200, west 12600⟩,
     ⟨62650560600, west 9000⟩, ⟨62666281800, west 12600⟩, ⟨62680188660, west 9000⟩,
     ⟨62697724260, west 12600⟩, ⟨62711638260, west 5400⟩, ⟨62729775060, west 12600⟩,
     ⟨62743087860, west 9000⟩, ⟨62761228260, west 12600⟩, ⟨62774537460, west 9000⟩,
     ⟨62792677860, west 12600⟩, ⟨62806591860, west 9000⟩, ⟨62824127460, west 12600⟩,
     ⟨62838041460, west 9000⟩, ⟨62855577060, west 12600⟩, ⟨62869491060, west 9000⟩,
     ⟨62887631460, west 12600⟩, ⟨62900940660, west 9000⟩, ⟨62919081060, west 12600⟩,
     ⟨62932390260, west 9000⟩, ⟨62950530660, west 12600⟩, ⟨62964444660, west 9000⟩,
     ⟨62981980260, west 12600⟩, ⟨62995894260, west 9000⟩, ⟨63013429860, west 12600⟩,
     ⟨63027343860, west 9000⟩, ⟨63044879460, west 12600⟩, ⟨63058793460, west 9000⟩,
     ⟨63076933860, west 12600⟩, ⟨63090243060, west 9000⟩, ⟨63108383460, west 12600⟩,
     ⟨63121692660, west 9000⟩, ⟨63139833060, west 12600⟩, ⟨63153747060, west 9000⟩,
     ⟨63171282660, west 12600⟩, ⟨63185196660, west 9000⟩, ⟨63202732260, west 12600⟩,
     ⟨63216646260, west 9000⟩, ⟨63234786660, west 12600⟩, ⟨63248095860, west 9000⟩,
     ⟨63266236260, west 12600⟩, ⟨63279545460, west 9000⟩, ⟨63297685860, west 12600⟩,
     ⟨63309180660, west 9000⟩, ⟨63329740260, west 12600⟩, ⟨63340630260, west 9000⟩,
     ⟨63361189860, west 12600⟩, ⟨63372079860, west 9000⟩, ⟨63392639460, west 12600⟩,
     ⟨63404134260, west 9000⟩, ⟨63424693860, west 12600⟩, ⟨63435583860, west 9000⟩,
     ⟨63455711400, west 9000⟩]
  rule := ⟨"NST", -12600, some ⟨"NDT", -9000, ⟨3, 2, 0, 7200⟩, ⟨11, 1, 0, 7200⟩⟩⟩

def nuuk : Region where
  name := "America/Nuuk"
  initialOffset := west 12416
  changes :=
    [⟨60449513216, west 10800⟩, ⟨62459442000, west 7200⟩, ⟨62474547600, west 10800⟩,
     ⟨62490272400, west 7200⟩, ⟨62505997200, west 10800⟩, ⟨62521722000, west 7200⟩,
     ⟨62537446800, west 10800⟩, ⟨62553171600, west 7200⟩, ⟨62568896400, west 10800⟩,
     ⟨62584621200, west 7200⟩, ⟨62600950800, west 10800⟩, ⟨62616675600, west 7200⟩,
     ⟨62632400400, west 10800⟩, ⟨62648125200, west 7200⟩, ⟨62663850000, west 10800⟩,
     ⟨62679574800, west 7200⟩, ⟨62695299600, west 10800⟩, ⟨62711024400, west 7200⟩,
     ⟨62726749200, west 10800⟩, ⟨62742474000, west 7200⟩, ⟨62758198800, west 10800⟩,
     ⟨62773923600, west 7200⟩, ⟨62790253200, west 10800⟩, ⟨62805978000, west 7200⟩,
     ⟨62821702800, west 10800⟩, ⟨62837427600, west 7200⟩, ⟨62853152400, west 10800⟩,
     ⟨62868877200, west 7200⟩, ⟨62884602000, west 10800⟩, ⟨62900326800, west 7200⟩,
     ⟨62916051600, west 10800⟩, ⟨62931776400, west 7200⟩, ⟨62947501200, west 10800⟩,
     ⟨62963830800, west 7200⟩, ⟨62981974800, west 10800⟩, ⟨62995280400, west 7200⟩,
     ⟨63013424400, west 10800⟩, ⟨63026730000, west 7200⟩, ⟨63044874000, west 10800⟩,
     ⟨63058179600, west 7200⟩, ⟨63076928400, west 10800⟩, ⟨63089629200, west 7200⟩,
     ⟨63108378000, west 10800⟩, ⟨63121078800, west 7200⟩, ⟨63139827600, west 10800⟩,
     ⟨63153133200, west 7200⟩, ⟨63171277200, west 10800⟩, ⟨63184582800, west 7200⟩,
     ⟨63202726800, west 10800⟩, ⟨63216032400, west 7200⟩, ⟨63234781200, west 10800⟩,
     ⟨63247482000, west 7200⟩, ⟨63266230800, west 10800⟩, ⟨63278931600, west 7200⟩,
     ⟨63297680400, west 10800⟩, ⟨63310381200, west 7200⟩, ⟨63329130000, west 10800⟩,
     ⟨63342435600, west 7200⟩, ⟨63360579600, west 10800⟩, ⟨63373885200, west 7200⟩,
     ⟨63392029200, west 10800⟩, ⟨63405334800, west 7200⟩, ⟨63424083600, west 10800⟩,
     ⟨63436784400, west 7200⟩, ⟨63455533200, west 10800⟩, ⟨63468234000, west 7200⟩,
     ⟨63486982800, west 10800⟩, ⟨63500288400, west 7200⟩, ⟨63518432400, west 10800⟩,
     ⟨63531738000, west 7200⟩, ⟨63549882000, west 10800⟩, ⟨63563187600, west 7200⟩,
     ⟨63581331600, west 10800⟩, ⟨63594637200, west 7200⟩, ⟨63613386000, west 10800⟩,
     ⟨63626086800, west 7200⟩, ⟨63644835600, west 10800⟩, ⟨63657536400, west 7200⟩,
     ⟨63676285200, west 10800⟩, ⟨63689590800, west 7200⟩, ⟨63707734800, west 10800⟩,
     ⟨63721040400, west 7200⟩, ⟨63739184400, west 10800⟩, ⟨63752490000, west 7200⟩,
     ⟨63771238800, west 10800⟩, ⟨63783939600, west 7200⟩, ⟨63802688400, west 10800⟩,
     ⟨63815389200, west 7200⟩, ⟨63834138000, west 7200⟩]
  rule := ⟨"-02", -7200, some ⟨"-01", -3600, ⟨3, 5, 0, -3600⟩, ⟨10, 5, 0, 0⟩⟩⟩

end VirtualClock.Atlas
