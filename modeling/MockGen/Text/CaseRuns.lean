import MockGen.Text.Digits

/-!
# Letter case beyond ASCII

Letter case beyond ASCII, in runs of code points that change alike; code points with longer forms
are listed one by one.
-/

namespace MockGen.Text

/-- Every `step`-th code point from `first` to `last` changes by `shift`. -/
structure CaseRun where
  first : Nat
  last : Nat
  step : Nat
  shift : Int

def CaseRun.inverse (run : CaseRun) : CaseRun where
  first := (run.first + run.shift).toNat
  last := (run.last + run.shift).toNat
  step := run.step
  shift := -run.shift

/-- Four numbers for each run: how far it begins behind the run before, how long it is, its step,
and twice its shift, less one for a shift backwards. -/
def caseRunsFrom : (first : Nat) → List Nat → List CaseRun
  | first, gap :: length :: step :: shift :: rest =>
    { first := first + gap
      last := first + gap + length
      step
      shift := if shift % 2 = 0 then (shift / 2 : Nat) else -((shift + 1) / 2 : Nat) } ::
      caseRunsFrom (first + gap) rest
  | _, _ => []

def pairedRuns : List CaseRun :=
  caseRunsFrom 0 (numbersIn [
    0x14ae1016ba10321022be11221014be10422214ce100922411eb106d224d1a226972242e226d0d089160b08916a08b,
    0x11221014ee10221034ee10221014ee10622414de1022de1016ce10421012ce1016ce1026be1012be10221016ae101,
    0x1100b220a238c100d226c17d910118b10221034103a220a1a226934103410341009210421016ee10422222ee1,
    0x136f911208a1042991224991070db101921062222dc2209169a10129a10158e10221030a9ad10158d10221016a9ad,
    0x1226b979224916b106e224e2d220c0a908917b0a0ca179338c1232101591022107b226a190a104d0891092a08910a,
    0x10ca224aa38d7fdb9125d7fdb912d0cac0a150a90cefaa17993ab908bcb10608bcb107c08bcb15c7ddd0c915c1c9,
    0x17bb11279116978b11279110a3da13693aa11279110a979177979261a79150a79170a79170a79150a79170d9226b9,
    0x106224359f9d10139fe91015df9d1022100c90c917d29db4e11b3ec92103c0c1796d0f100fc3fb1127fb114959102,
    0x1224f0a22492ca222b089224d69dcf21072223d9222c925f9ad1119210321023f8ad1015f8ad1011ff9d1017e8ad1,
    0x110278adca10118adca1015aadca1015badca10178adca104a222a62223799dca1022105922091788a9a104222789,
    0x108911b4dcbd2107b22262101922217d9a9a10158adca1017b9100a2269108db1011d8dca1013a9dca1013c8dca,
    0x108917b0cead08917b0c8e08a12e3dbb6991009699240a69924949699209169924c08b0a913c0ea0a917c7bba,
    0x148911c08bdf])

def upperRuns : List CaseRun :=
  pairedRuns.map CaseRun.inverse ++ caseRunsFrom 0 (numbersIn [
    0x13da102b3d91015b91041e91013f910695f105f90da103ad1107c110311031106897a991069979f104f969fa105ea,
    0x15e9103a8948e99a1011998b1017ea8b10158b8b10238b8b11178b8b1011bb8b1013bb8b1039ac97fa1047ba101,
    0x1199cb103cc])

def lowerRuns : List CaseRun :=
  pairedRuns ++ caseRunsFrom 0 (numbersIn [
    0x11041fadb102dc1a100e1a100a1a104a79170a79170a79172db5fddb102dad97e91028892107c2103210321058f,
    0x139a8c1015fd8c])

def titleRuns : List CaseRun :=
  caseRunsFrom 0 (numbers "
    l($%&%$%$%$%%%$%&%$%$%$%%%$%&%$%$%$%%I$%&%$%$%$%%gtAN%$Q&%$gs'+%4,+%$,+%4,+%$,+%4,+%$/$%6-$%$+$%
    6-$%$K$%6-$%$")

/-- Code points with their longer forms. -/
def formsOf (codes : List Nat) : List (Nat × List Nat) :=
  (pieces codes).map fun piece => (piece.headD 0, piece.tail)

def upperForms : List (Nat × List Nat) :=
  formsOf (numbersIn [
    0x101ec90996aaf902ada5eca78ea018c909c95ce90ee9018c909c91be90ae9049c92990ef06994fa919d03a93a97bb,
    0x14adf9008c93ac95ce92adf903ac95ce90adf906fa91892baf9029c91b91baf9029c97a90baf9009c94a97aaf9,
    0x101be939cf938ef901be929cf928ef901be919cf918ef901be909cf908ef9028d93ac95ce96adf9018c93ac95ce9,
    0x101be919cf919ef901be909cf909ef901be979cf978ef901be969cf968ef901be959cf958ef901be949cf948ef9,
    0x101be979cf979ef901be969cf969ef901be959cf959ef901be949cf949ef901be939cf939ef901be929cf929ef9,
    0x101be95dcf95aef901be94dcf94aef901be93dcf93aef901be92dcf92aef901be91dcf91aef901be90dcf90aef9,
    0x101be93dcf93bef901be92dcf92bef901be91dcf91bef901be90dcf90bef901be97dcf97aef901be96dcf96aef9,
    0x101be91ddf91cef901be90ddf90cef901be97dcf97bef901be96dcf96bef901be95dcf95bef901be94dcf94bef9,
    0x101be97ddf97cef901be96ddf96cef901be95ddf95cef901be94ddf94cef901be93ddf93cef901be92ddf92cef9,
    0x101be95ddf95def901be94ddf94def901be93ddf93def901be92ddf92def901be91ddf91def901be90ddf90def9,
    0x17eef9028d91ae96eef901be968e94eef901be91ae93eef901be92fef92eef901be97ddf97def901be96ddf96def9,
    0x178ff9028d97ae968ff901be919e948ff901be97ae938ff901be929ff928ff901be91ae94fef901be928d91ae9,
    0x109c91be97aff9028d91be96aff9018c909c91be93aff9008c909c91be92aff901be97ae949ff901be928d97ae9,
    0x12eff9028d909c95ce97cff9028d95ce96cff903ac91ce94cff9018c909c95ce93cff9008c909c95ce92cff9028d9,
    0x108cdf901be91de94fff901be928d91de97eff9028d91de96eff901be979e94eff901be91de93eff901be92fff9,
    0x104a93a968cdf904a93a958cdf9049968968948cdf9019968968938cdf9049968928cdf9019968918cdf90689689,
    0x15fca48da7acdf9068da69da6acdf903fca48da5acdf905eca48da4acdf9068da48da3acdf9])

def lowerForms : List (Nat × List Nat) := [
  (304, [105, 775])]

def titleForms : List (Nat × List Nat) :=
  formsOf (numbers "
    hCf7fW$fe+yYfe&$juVju_r)$juXs*r)$ju[s5r&r)$jv&jv.r)$jv(s-r)$jv+s;r&r)$jvVjv_r)$jvXs3r)$jv[sMr&r)
    $gfs$f*fJ$gfs%f*fM$gfs&f*fP$gfs'f*fJfM$gfs(f*fJfP$gfs)f7fX$gfs*f7fX$gfs7z(zZ$gfs8z(zI$gfs9z(zO$g
    fs:z2zZ$gfs;z(zQ")

def letterFamilies : List (List Nat) :=
  pieces (numbers "
    fMiU$fWjd$gYsa$r)s^juc$s4jv7$sTjvG$sVt4$sYtY$s]t5$s_tT$t$t:$t%tU$t&t'$t*t9$uVji$$uXji%$ucji&$v%j
    i'$v&ji(ji)$v.ji*$vGji+$ji,fmj/$jpEjq?$gfs)gfs*")

end MockGen.Text
