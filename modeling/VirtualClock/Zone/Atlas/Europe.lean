import VirtualClock.Zone.Region

/-!
# Regions of Europe

The history of the offsets of the European regions.  In Dublin the winter offset is
the daylight one: it lies behind the standard offset.
Changes hold a UTC second since the first midnight of year one and the offset from
then on.
-/

namespace VirtualClock.Atlas

def berlin : Region where
  name := "Europe/Berlin"
  initialOffset := east 3208
  changes :=
    [⟨59713542392, east 3600⟩, ⟨60441890400, east 7200⟩, ⟨60455113200, east 3600⟩,
     ⟨60472141200, east 7200⟩, ⟨60485446800, east 3600⟩, ⟨60503590800, east 7200⟩,
     ⟨60516896400, east 3600⟩, ⟨61196691600, east 7200⟩, ⟨61278339600, east 3600⟩,
     ⟨61291040400, east 7200⟩, ⟨61307370000, east 3600⟩, ⟨61323094800, east 7200⟩,
     ⟨61338819600, east 3600⟩, ⟨61354544400, east 7200⟩, ⟨61359033600, east 10800⟩,
     ⟨61369660800, east 7200⟩, ⟨61374416400, east 3600⟩, ⟨61387117200, east 7200⟩,
     ⟨61402323600, east 3600⟩, ⟨61417965600, east 7200⟩, ⟨61420986000, east 10800⟩,
     ⟨61425216000, east 7200⟩, ⟨61433686800, east 3600⟩, ⟨61450621200, east 7200⟩,
     ⟨61465136400, east 3600⟩, ⟨61481466000, east 7200⟩, ⟨61496586000, east 3600⟩,
     ⟨62459427600, east 7200⟩, ⟨62474547600, east 3600⟩, ⟨62490272400, east 7200⟩,
     ⟨62505997200, east 3600⟩, ⟨62521722000, east 7200⟩, ⟨62537446800, east 3600⟩,
     ⟨62553171600, east 7200⟩, ⟨62568896400, east 3600⟩, ⟨62584621200, east 7200⟩,
     ⟨62600950800, east 3600⟩, ⟨62616675600, east 7200⟩, ⟨62632400400, east 3600⟩,
     ⟨62648125200, east 7200⟩, ⟨62663850000, east 3600⟩, ⟨62679574800, east 7200⟩,
     ⟨62695299600, east 3600⟩, ⟨62711024400, east 7200⟩, ⟨62726749200, east 3600⟩,
     ⟨62742474000, east 7200⟩, ⟨62758198800, east 3600⟩, ⟨62773923600, east 7200⟩,
     ⟨62790253200, east 3600⟩, ⟨62805978000, east 7200⟩, ⟨62821702800, east 3600⟩,
     ⟨62837427600, east 7200⟩, ⟨62853152400, east 3600⟩, ⟨62868877200, east 7200⟩,
     ⟨62884602000, east 3600⟩, ⟨62900326800, east 7200⟩, ⟨62916051600, east 3600⟩,
     ⟨62931776400, east 7200⟩, ⟨62947501200, east 3600⟩, ⟨62963830800, east 7200⟩]
  rule := ⟨"CET", 3600, some ⟨"CEST", 7200, ⟨3, 5, 0, 7200⟩, ⟨10, 5, 0, 10800⟩⟩⟩

def dublin : Region where
  name := "Europe/Dublin"
  initialOffset := west 1521
  changes :=
    [⟨59313947121, west 1521⟩, ⟨60443634321, east 2079⟩, ⟨60455125521, east 0⟩,
     ⟨60471453600, east 3600⟩, ⟨60485450400, east 0⟩, ⟨60501693600, east 3600⟩,
     ⟨60518109600, east 0⟩, ⟨60533748000, east 3600⟩, ⟨60549559200, east 0⟩,
     ⟨60565197600, east 3600⟩, ⟨60583428000, east 0⟩, ⟨60597252000, east 3600⟩,
     ⟨60613063200, east 0⟩, ⟨60628096800, east 3600⟩, ⟨60645031200, east 0⟩,
     ⟨60661965600, east 3600⟩, ⟨60674666400, east 0⟩, ⟨60692810400, east 3600⟩,
     ⟨60706720800, east 0⟩, ⟨60724864800, east 3600⟩, ⟨60739380000, east 0⟩,
     ⟨60756314400, east 3600⟩, ⟨60770829600, east 0⟩, ⟨60787159200, east 3600⟩,
     ⟨60802279200, east 0⟩, ⟨60819818400, east 3600⟩, ⟨60834333600, east 0⟩,
     ⟨60851268000, east 3600⟩, ⟨60865783200, east 0⟩, ⟨60882112800, east 3600⟩,
     ⟨60897232800, east 0⟩, ⟨60914167200, east 3600⟩, ⟨60928682400, east 0⟩,
     ⟨60945616800, east 3600⟩, ⟨60960132000, east 0⟩, ⟨60976461600, east 3600⟩,
     ⟨60992186400, east 0⟩, ⟨61009120800, east 3600⟩, ⟨61023636000, east 0⟩,
     ⟨61039965600, east 3600⟩, ⟨61055085600, east 0⟩, ⟨61072020000, east 3600⟩,
     ⟨61086535200, east 0⟩, ⟨61103469600, east 3600⟩, ⟨61117984800, east 0⟩,
     ⟨61134314400, east 3600⟩, ⟨61149434400, east 0⟩, ⟨61166368800, east 3600⟩,
     ⟨61185117600, east 0⟩, ⟨61193584800, east 3600⟩, ⟨61402240800, east 0⟩,
     ⟨61416151200, east 3600⟩, ⟨61436109600, east 0⟩, ⟨61450624800, east 3600⟩,
     ⟨61467559200, east 0⟩, ⟨61480864800, east 3600⟩, ⟨61499008800, east 0⟩,
     ⟨61513524000, east 3600⟩, ⟨61529853600, east 0⟩, ⟨61544973600, east 3600⟩,
     ⟨61561303200, east 0⟩, ⟨61577028000, east 3600⟩, ⟨61593357600, east 0⟩,
     ⟨61608477600, east 3600⟩, ⟨61622992800, east 0⟩, ⟨61639322400, east 3600⟩,
     ⟨61654442400, east 0⟩, ⟨61671376800, east 3600⟩, ⟨61685892000, east 0⟩,
     ⟨61703431200, east 3600⟩, ⟨61717946400, east 0⟩, ⟨61734276000, east 3600⟩,
     ⟨61749396000, east 0⟩, ⟨61766330400, east 3600⟩, ⟨61780845600, east 0⟩,
     ⟨61797780000, east 3600⟩, ⟨61812295200, east 0⟩, ⟨61828624800, east 3600⟩,
     ⟨61843744800, east 0⟩, ⟨61858864800, east 3600⟩, ⟨61877613600, east 0⟩,
     ⟨61890314400, east 3600⟩, ⟨61909063200, east 0⟩, ⟨61922368800, east 3600⟩,
     ⟨61940512800, east 0⟩, ⟨61953213600, east 3600⟩, ⟨61971962400, east 0⟩,
     ⟨61984663200, east 3600⟩, ⟨62003412000, east 0⟩, ⟨62016112800, east 3600⟩,
     ⟨62034861600, east 0⟩, ⟨62047562400, east 3600⟩, ⟨62066916000, east 0⟩,
     ⟨62076592800, east 3600⟩, ⟨62098354800, east 3600⟩, ⟨62193319200, east 0⟩,
     ⟨62205415200, east 3600⟩, ⟨62224768800, east 0⟩, ⟨62236864800, east 3600⟩,
     ⟨62256218400, east 0⟩, ⟨62268314400, east 3600⟩, ⟨62287668000, east 0⟩,
     ⟨62299764000, east 3600⟩, ⟨62319117600, east 0⟩, ⟨62331818400, east 3600⟩,
     ⟨62350567200, east 0⟩, ⟨62363268000, east 3600⟩, ⟨62382016800, east 0⟩,
     ⟨62394717600, east 3600⟩, ⟨62414071200, east 0⟩, ⟨62426167200, east 3600⟩,
     ⟨62445520800, east 0⟩, ⟨62457616800, east 3600⟩, ⟨62476970400, east 0⟩,
     ⟨62490272400, east 3600⟩, ⟨62508416400, east 0⟩, ⟨62521722000, east 3600⟩,
     ⟨62539866000, east 0⟩, ⟨62553171600, east 3600⟩, ⟨62571315600, east 0⟩,
     ⟨62584621200, east 3600⟩, ⟨62603370000, east 0⟩, ⟨62616675600, east 3600⟩,
     ⟨62634819600, east 0⟩, ⟨62648125200, east 3600⟩, ⟨62666269200, east 0⟩,
     ⟨62679574800, east 3600⟩, ⟨62697718800, east 0⟩, ⟨62711024400, east 3600⟩,
     ⟨62729168400, east 0⟩, ⟨62742474000, east 3600⟩, ⟨62761222800, east 0⟩,
     ⟨62773923600, east 3600⟩, ⟨62792672400, east 0⟩, ⟨62805978000, east 3600⟩,
     ⟨62824122000, east 0⟩, ⟨62837427600, east 3600⟩, ⟨62855571600, east 0⟩,
     ⟨62868877200, east 3600⟩, ⟨62887021200, east 0⟩, ⟨62900326800, east 3600⟩,
     ⟨62918470800, east 0⟩, ⟨62931776400, east 3600⟩, ⟨62949920400, east 0⟩,
     ⟨62963830800, east 3600⟩]
  rule := ⟨"IST", 3600, some ⟨"GMT", 0, ⟨10, 5, 0, 7200⟩, ⟨3, 5, 0, 3600⟩⟩⟩

end VirtualClock.Atlas
