import VirtualClock.Zone.Region

/-!
# Regions of Africa

The history of the offsets of the African regions.
Changes hold a UTC second since the first midnight of year one and the offset from
then on.
-/

namespace VirtualClock.Atlas

def monrovia : Region where
  name := "Africa/Monrovia"
  initialOffset := west 2588
  changes :=
    [⟨59358616988, west 2588⟩, ⟨60531237788, west 2670⟩, ⟨62199189870, east 0⟩]
  rule := ⟨"GMT", 0, none⟩

def casablanca : Region where
  name := "Africa/Casablanca"
  initialOffset := west 1820
  changes :=
    [⟨60362584220, east 0⟩, ⟨61179235200, east 3600⟩, ⟨61185106800, east 0⟩,
     ⟨61193577600, east 3600⟩, ⟨61374409200, east 0⟩, ⟨61518355200, east 3600⟩,
     ⟨61530447600, east 0⟩, ⟨62054164800, east 3600⟩, ⟨62064486000, east 0⟩,
     ⟨62276860800, east 3600⟩, ⟨62282818800, east 0⟩, ⟨62335353600, east 3600⟩,
     ⟨62343298800, east 0⟩, ⟨62366889600, east 3600⟩, ⟨62379846000, east 0⟩,
     ⟨62401104000, east 3600⟩, ⟨62406630000, east 0⟩, ⟨62583840000, east 3600⟩,
     ⟨62640514800, east 0⟩, ⟨63347875200, east 3600⟩, ⟨63355820400, east 0⟩,
     ⟨63379411200, east 3600⟩, ⟨63386406000, east 0⟩, ⟨63408355200, east 3600⟩,
     ⟨63416818800, east 0⟩, ⟨63437385600, east 3600⟩, ⟨63447663600, east 0⟩,
     ⟨63471261600, east 3600⟩, ⟨63478346400, east 0⟩, ⟨63481024800, east 3600⟩,
     ⟨63484567200, east 0⟩, ⟨63502711200, east 3600⟩, ⟨63508759200, east 0⟩,
     ⟨63511696800, east 3600⟩, ⟨63518436000, east 0⟩, ⟨63531741600, east 3600⟩,
     ⟨63539517600, east 0⟩, ⟨63542541600, east 3600⟩, ⟨63549885600, east 0⟩,
     ⟨63563191200, east 3600⟩, ⟨63569844000, east 0⟩, ⟨63572868000, east 3600⟩,
     ⟨63581335200, east 0⟩, ⟨63594640800, east 3600⟩, ⟨63600688800, east 0⟩,
     ⟨63603712800, east 3600⟩, ⟨63613389600, east 0⟩, ⟨63626090400, east 3600⟩,
     ⟨63630928800, east 0⟩, ⟨63634557600, east 3600⟩, ⟨63644839200, east 0⟩,
     ⟨63657540000, east 3600⟩, ⟨63661773600, east 0⟩, ⟨63664797600, east 3600⟩,
     ⟨63676288800, east 3600⟩, ⟨63692618400, east 0⟩, ⟨63695642400, east 3600⟩,
     ⟨63722858400, east 0⟩, ⟨63726487200, east 3600⟩, ⟨63753703200, east 0⟩,
     ⟨63756727200, east 3600⟩, ⟨63783943200, east 0⟩, ⟨63787572000, east 3600⟩,
     ⟨63814788000, east 0⟩, ⟨63817812000, east 3600⟩, ⟨63845632800, east 0⟩,
     ⟨63848656800, east 3600⟩, ⟨63875872800, east 0⟩, ⟨63879501600, east 3600⟩,
     ⟨63906717600, east 0⟩, ⟨63909741600, east 3600⟩, ⟨63937562400, east 0⟩,
     ⟨63940586400, east 3600⟩, ⟨63967802400, east 0⟩, ⟨63971431200, east 3600⟩,
     ⟨63998647200, east 0⟩, ⟨64001671200, east 3600⟩, ⟨64028887200, east 0⟩,
     ⟨64032516000, east 3600⟩, ⟨64059732000, east 0⟩, ⟨64062756000, east 3600⟩,
     ⟨64090576800, east 0⟩, ⟨64093600800, east 3600⟩, ⟨64120816800, east 0⟩,
     ⟨64124445600, east 3600⟩, ⟨64151661600, east 0⟩, ⟨64154685600, east 3600⟩,
     ⟨64181901600, east 0⟩, ⟨64185530400, east 3600⟩, ⟨64212746400, east 0⟩,
     ⟨64216375200, east 3600⟩, ⟨64243591200, east 0⟩, ⟨64246615200, east 3600⟩,
     ⟨64273831200, east 0⟩, ⟨64277460000, east 3600⟩, ⟨64304676000, east 0⟩,
     ⟨64307700000, east 3600⟩, ⟨64335520800, east 0⟩, ⟨64338544800, east 3600⟩,
     ⟨64365760800, east 0⟩, ⟨64369389600, east 3600⟩, ⟨64396605600, east 0⟩,
     ⟨64399629600, east 3600⟩, ⟨64426845600, east 0⟩, ⟨64430474400, east 3600⟩,
     ⟨64457690400, east 0⟩, ⟨64461319200, east 3600⟩, ⟨64488535200, east 0⟩,
     ⟨64491559200, east 3600⟩, ⟨64518775200, east 0⟩, ⟨64522404000, east 3600⟩,
     ⟨64549620000, east 0⟩, ⟨64552644000, east 3600⟩, ⟨64580464800, east 0⟩,
     ⟨64583488800, east 3600⟩, ⟨64610704800, east 0⟩, ⟨64614333600, east 3600⟩,
     ⟨64641549600, east 0⟩, ⟨64644573600, east 3600⟩, ⟨64671789600, east 0⟩,
     ⟨64675418400, east 3600⟩, ⟨64702634400, east 0⟩, ⟨64706263200, east 3600⟩,
     ⟨64733479200, east 0⟩, ⟨64736503200, east 3600⟩, ⟨64763719200, east 0⟩,
     ⟨64767348000, east 3600⟩, ⟨64794564000, east 0⟩, ⟨64797588000, east 3600⟩,
     ⟨64825408800, east 0⟩, ⟨64828432800, east 3600⟩, ⟨64855648800, east 0⟩,
     ⟨64859277600, east 3600⟩, ⟨64886493600, east 0⟩, ⟨64889517600, east 3600⟩,
     ⟨64916733600, east 0⟩, ⟨64920362400, east 3600⟩, ⟨64947578400, east 0⟩,
     ⟨64951207200, east 3600⟩, ⟨64978423200, east 0⟩, ⟨64981447200, east 3600⟩,
     ⟨65008663200, east 0⟩, ⟨65012292000, east 3600⟩, ⟨65039508000, east 0⟩,
     ⟨65042532000, east 3600⟩, ⟨65070352800, east 0⟩, ⟨65073376800, east 3600⟩,
     ⟨65100592800, east 0⟩, ⟨65104221600, east 3600⟩, ⟨65131437600, east 0⟩,
     ⟨65134461600, east 3600⟩, ⟨65161677600, east 0⟩, ⟨65165306400, east 3600⟩,
     ⟨65192522400, east 0⟩, ⟨65196151200, east 3600⟩, ⟨65223367200, east 0⟩,
     ⟨65226391200, east 3600⟩, ⟨65253607200, east 0⟩, ⟨65257236000, east 3600⟩,
     ⟨65284452000, east 0⟩, ⟨65287476000, east 3600⟩, ⟨65315296800, east 0⟩,
     ⟨65318320800, east 3600⟩, ⟨65345536800, east 0⟩, ⟨65349165600, east 3600⟩,
     ⟨65376381600, east 0⟩, ⟨65379405600, east 3600⟩, ⟨65406621600, east 0⟩,
     ⟨65410250400, east 3600⟩, ⟨65437466400, east 0⟩, ⟨65441095200, east 3600⟩,
     ⟨65468311200, east 0⟩, ⟨65471335200, east 3600⟩, ⟨65498551200, east 0⟩,
     ⟨65502180000, east 3600⟩, ⟨65529396000, east 0⟩, ⟨65532420000, east 3600⟩,
     ⟨65560240800, east 0⟩, ⟨65563264800, east 3600⟩, ⟨65590480800, east 0⟩,
     ⟨65594109600, east 3600⟩, ⟨65621325600, east 0⟩, ⟨65624349600, east 3600⟩,
     ⟨65651565600, east 0⟩, ⟨65655194400, east 3600⟩, ⟨65682410400, east 0⟩,
     ⟨65685434400, east 3600⟩, ⟨65713255200, east 0⟩, ⟨65716279200, east 3600⟩,
     ⟨65743495200, east 0⟩, ⟨65747124000, east 3600⟩, ⟨65774340000, east 0⟩,
     ⟨65777364000, east 3600⟩, ⟨65805184800, east 0⟩, ⟨65808208800, east 3600⟩,
     ⟨65835424800, east 0⟩, ⟨65839053600, east 3600⟩]
  rule := ⟨"+01", 3600, none⟩

def cairo : Region where
  name := "Africa/Cairo"
  initialOffset := east 7509
  changes :=
    [⟨59950187691, east 7200⟩, ⟨61205752800, east 10800⟩, ⟨61212488400, east 7200⟩,
     ⟨61229426400, east 10800⟩, ⟨61242728400, east 7200⟩, ⟨61259752800, east 10800⟩,
     ⟨61277806800, east 7200⟩, ⟨61291288800, east 10800⟩, ⟨61309774800, east 7200⟩,
     ⟨61322911200, east 10800⟩, ⟨61341397200, east 7200⟩, ⟨61355743200, east 10800⟩,
     ⟨61372933200, east 7200⟩, ⟨61736508000, east 10800⟩, ⟨61748946000, east 7200⟩,
     ⟨61767266400, east 10800⟩, ⟨61780482000, east 7200⟩, ⟨61798806000, east 10800⟩,
     ⟨61811942400, east 7200⟩, ⟨61830428400, east 10800⟩, ⟨61843564800, east 7200⟩,
     ⟨61861964400, east 10800⟩, ⟨61875100800, east 7200⟩, ⟨61893500400, east 10800⟩,
     ⟨61906636800, east 7200⟩, ⟨61925036400, east 10800⟩, ⟨61938172800, east 7200⟩,
     ⟨61956658800, east 10800⟩, ⟨61969795200, east 7200⟩, ⟨61988194800, east 10800⟩,
     ⟨62001331200, east 7200⟩, ⟨62019730800, east 10800⟩, ⟨62032953600, east 7200⟩,
     ⟨62051266800, east 10800⟩, ⟨62064489600, east 7200⟩, ⟨62082889200, east 10800⟩,
     ⟨62096112000, east 7200⟩, ⟨62114425200, east 10800⟩, ⟨62127648000, east 7200⟩,
     ⟨62145961200, east 10800⟩, ⟨62159184000, east 7200⟩, ⟨62177497200, east 10800⟩,
     ⟨62190720000, east 7200⟩, ⟨62209119600, east 10800⟩, ⟨62222342400, east 7200⟩,
     ⟨62240655600, east 10800⟩, ⟨62253878400, east 7200⟩, ⟨62272191600, east 10800⟩,
     ⟨62285414400, east 7200⟩, ⟨62303727600, east 10800⟩, ⟨62316950400, east 7200⟩,
     ⟨62335350000, east 10800⟩, ⟨62348572800, east 7200⟩, ⟨62366886000, east 10800⟩,
     ⟨62380108800, east 7200⟩, ⟨62398422000, east 10800⟩, ⟨62411644800, east 7200⟩,
     ⟨62429958000, east 10800⟩, ⟨62443180800, east 7200⟩, ⟨62461580400, east 10800⟩,
     ⟨62474803200, east 7200⟩, ⟨62493116400, east 10800⟩, ⟨62506339200, east 7200⟩,
     ⟨62531996400, east 10800⟩, ⟨62537875200, east 7200⟩, ⟨62562409200, east 10800⟩,
     ⟨62569411200, east 7200⟩, ⟨62587810800, east 10800⟩, ⟨62601033600, east 7200⟩,
     ⟨62619346800, east 10800⟩, ⟨62632569600, east 7200⟩, ⟨62650882800, east 10800⟩,
     ⟨62664105600, east 7200⟩, ⟨62682418800, east 10800⟩, ⟨62695641600, east 7200⟩,
     ⟨62714041200, east 10800⟩, ⟨62727264000, east 7200⟩, ⟨62746009200, east 10800⟩,
     ⟨62758800000, east 7200⟩, ⟨62777113200, east 10800⟩, ⟨62790336000, east 7200⟩,
     ⟨62808649200, east 10800⟩, ⟨62821872000, east 7200⟩, ⟨62840271600, east 10800⟩,
     ⟨62853494400, east 7200⟩, ⟨62871807600, east 10800⟩, ⟨62885030400, east 7200⟩,
     ⟨62903343600, east 10800⟩, ⟨62916566400, east 7200⟩, ⟨62934616800, east 10800⟩,
     ⟨62947918800, east 7200⟩, ⟨62966066400, east 10800⟩, ⟨62979368400, east 7200⟩,
     ⟨62997516000, east 10800⟩, ⟨63010818000, east 7200⟩, ⟨63028965600, east 10800⟩,
     ⟨63042267600, east 7200⟩, ⟨63061020000, east 10800⟩, ⟨63074322000, east 7200⟩,
     ⟨63092469600, east 10800⟩, ⟨63105771600, east 7200⟩, ⟨63123919200, east 10800⟩,
     ⟨63137221200, east 7200⟩, ⟨63155368800, east 10800⟩, ⟨63168670800, east 7200⟩,
     ⟨63186818400, east 10800⟩, ⟨63200120400, east 7200⟩, ⟨63218872800, east 10800⟩,
     ⟨63232174800, east 7200⟩, ⟨63250322400, east 10800⟩, ⟨63263624400, east 7200⟩,
     ⟨63281772000, east 10800⟩, ⟨63294469200, east 7200⟩, ⟨63313221600, east 10800⟩,
     ⟨63324709200, east 7200⟩, ⟨63344671200, east 10800⟩, ⟨63355554000, east 7200⟩,
     ⟨63376120800, east 10800⟩, ⟨63386398800, east 7200⟩, ⟨63408175200, east 10800⟩,
     ⟨63417070800, east 7200⟩, ⟨63419666400, east 10800⟩, ⟨63421477200, east 7200⟩,
     ⟨63535788000, east 10800⟩, ⟨63539413200, east 7200⟩, ⟨63542440800, east 10800⟩,
     ⟨63547275600, east 7200⟩, ⟨63818229600, east 10800⟩]
  rule := ⟨"EET", 7200, some ⟨"EEST", 10800, ⟨4, 5, 5, 0⟩, ⟨10, 5, 4, 86400⟩⟩⟩

end VirtualClock.Atlas
