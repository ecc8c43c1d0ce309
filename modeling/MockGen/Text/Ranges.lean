import MockGen.Text.Digits

/-!
# Ranges of code points

Code point ranges beyond ASCII for character classes.  Every table gives two numbers for each range,
in ascending order: how far its first code point lies behind the range before, and how far its last
one lies behind its first.
-/

namespace MockGen.Text

/-- The first and the last code point of each range, when the range before ends at `last`; a table
is counted from the end of ASCII. -/
def rangesFrom : (last : Nat) → List Nat → List (Nat × Nat)
  | last, gap :: length :: rest =>
    (last + gap, last + gap + length) :: rangesFrom (last + gap + length) rest
  | _, _ => []

def wordRanges : List (Nat × Nat) :=
  rangesFrom 127 (numbersIn [
    0x1215196a2d6d352b0990d7035c25ca1929a22a923a2022207023312428a0200947939519f26b26a222140210903d,
    0x1625a31375792195190903a045e3f1d2a527a629090b0b04029055a6051292d790490b96b5b201a03690910a022c9,
    0x144212625a31374902919510a03a044212625a222091a2319090230c121212625a31551903533952216901a043402,
    0x1121951210c04421926a2227502619195130323b047926a22273a496a07a3942414120214322452049621952217b0,
    0x13a0c01c331929024302912192027a2420210d1929659127d2a190c63020927a41a6522a51922601a030d222092a,
    0x13a792893320f2693320263320c3320d33202633249d22d306025c719205949520914043557295a2d4e944b3c2759,
    0x1437c0d6b395896021c34090b97197a1971940504c3e0a2249791a792a691a0929429961b20a33d994535a91a794,
    0x135c3535ac1897fa604125232d232d090930e4195b3c3b7e695b2d19472a6d6b9069197194d4e296a6c2971b53d49,
    0x15a7993f7ab91f20546332923202020744021930506c94972965314e962264955334622402624e36b2020202735,
    0x1345b922d6321b92275a9543409092b26af01a9626262626262626296a1a0097e306025c302914374cb5d9a5b7e99,
    0x123222791b4202167f36c93090d79936b1a6d5a3b449c35d48949abd1897fec918d690d191c69277b191c791e7b39,
    0x135355920929321b02034314021e4046a71957220b0d20b247295b6d094b2b6a395c2120451b195b1e793e395696a,
    0x1245e9391d5e37f3a2dd2c3d92121202424921920645967c1d935dd58c8a0e56a593ceda719692e975922d2626295,
    0x1753c35b395c65b293c52b1a0e44b5eb12a0f594d592f93c593692122a21b2394c235353540b9491b71b09194a68a,
    0x109195c36b36a304123d20356890921d251b7395a296ec4891262692292126269229593e197c53c53c71935ba3d42,
    0x17cc19591d092e692e0f0991a960b1b62b35a395e1a473b271c7b26b0b09394b22230a6d33a57e7891b50c6122a1e,
    0x1493a50229493797d59042c190305190a3c2919090b1c4d6903125b3b4e596a5a3b7d1a4b3495a197c799171d26b,
    0x14905a7d5c32d6d7ca19190215a7d7b2619633a4e7ba45903a044212625a313749192a6d09192692320265a90b21a,
    0x10993a04a5d4906a0097c3905b0201a6c3778919790200a7a21273037592a95e93d2fa65396a2b7e19090692d7c19,
    0x16d8a0a0c9599d38b2a6d97c91be94d4a0a06fa2a7ec19090797b21257192906a5c21261e95b64b0a02a4c20909c,
    0x15aba197efb95b02118949389062992d96a91ea92a64a262195931a7d3a5b719269971926b090f892fe8a68992aff,
    0x127332089262023923313031268924a909a0b5d93a789b919090944962d958cc39e1932a26d2cc2126230db9a093d,
    0x12123267cba1953d3a5b28d051936394d2cf6b18cb1e3720b26b20b26b20b26b20b26b20b20b33ad2640242323b26,
    0x1623302120202020203021222020205070202321920302122b2338b6924d59932222f0bc91950093891e09348b269,
    0x129d993cfa5b890c8e0ece97918ab935bb090f8891c7bbba9788a194cbd4958990a242260a2192023232])

def digitRanges : List (Nat × Nat) :=
  rangesFrom 127 (numbers "
    ffE-g+-h+-kA-f[-f[-f[-f[-f[-f[-f[-f[-f[-fE-f[-f+-i;-f+-fl+-K-iQ-g%-gK-+-g[-f;-g+-+-fhf+-oK-K-h+-
    ;-f;-k;-tg;-fe+-fq+-qQ-g%-b-g5-i;-j;-f[-j[-fK-fK-kK-fK-p[-h[-f+-ry[-f;-g+-xtYUft%-kK-fh;-hm;-")

def blankRanges : List (Nat × Nat) :=
  rangesFrom 127 [
    6, 0, 27, 0, 5600, 0, 2432, 10, 30, 1, 6, 0, 48, 0, 4001, 0]

def markRanges : List (Nat × Nat) :=
  rangesFrom 127 (numbers "
    ]$n-fS<$ha(i.P&$&%&%&$f-.U85$fJ*')'%&'H$C>f@.`,.$='&,&&&(P&b+O;&D[&&5&*/%B&^$&*'%'&.$/%?$'&^$&()
    %'&($C%($0&^$&+&&&&9%;)&&^$&*'%'&,&/%C$a((&&'.$M(]$&*&&&',%0%B&^$&*&&&',%0%A']%&*&&&'.$/%B&f+$))
    &$&+7%c$&+1+fG$&-0)f/%@$&$&$)%V7&%*.&G.$fI7<')&&&'*('2/&$/'p$&.,sE'A&B%C%f%C.$R&&$g>$f[/)/gC$b(_
    -&@'$U1&3V(T4K,1&C0^1U7g=&&8)$+$'&h+dn$%8$fa0)$(/ghd&g2$fECmO)fN%zn9$)-E%f5%i5$($)$<()$f8%W5?52$
    K+>0Q'T1I$f(11$-%R&W$&&'%*%&$N(*%hQ+&%smU$pF353(%=&hT$fC%nB$hG$g:(fi+&&%*'M&)$gJ%mc'k(%g>.V'f`&Z
    2N$'%/'R.,$c&I15%Q$1&U1-'&%fA/+$gE/:']%&*'%'&.$/%'*((h%5<$f67hP*',@%f74fO0fJ2i%2hZ)&%''&$&%g2*'*
    ($A-M*&'-$..S3k:+&+f79&1f`)($&%&*&$f'(&%&(j@'rv_(a*u=$&Z,'f6$0%ryP%hlFQ':mC(()-+'*C'g9&fmaZ)U-$3
    $;(&2z5*&4'*&%&(i**j]$c'ffE*fR*fhqwZhS")

def symbolRanges : List (Nat × Nat) :=
  rangesFrom 127 (numbers "
    F,&%&''$&$&$'$($<$D$l/'11**&$&4fZ$-$*%fU$g0$*%h5)N%'&S$&$'$'$Q%6-0$&&f/'fK$.$/$8%&1hM')%U2D$N$h@
    %/$g&%+%&$f^$f_%fd$g'+fb$,$)$h/$N$f`$f/$4$/%gJ:')9$&$&$&'f,$^+&)&0fT)f3%f@$nI,L-fK$nQ%Q%f3&f,%gB
    &&'I.f`%g_$(%g=EC%g%*&)5$g@4..fc'a(d%f%+0$pN$&&0&2&2&2%6;-2'6&-@(0(6DA'&&@%&'&%/$&&*)&$&$&$)$0%)
    (*'&$`%)o:>.f6f1;nYCtC'C&fLhJ)3'&%fU$g4R&QG=&f<1h9?/*'(<4$*%*&f@%($f?$g9%)-EGAB0A-$4C/J4idit%dtu
    5Z]%i2&fE'/$fX)-:.%fL%gB'/'`'f;%M&&$V%T$fF05%fb'<&fI%5%fN$3%g$$smc$g-4ja5g$$Q'5-;&';(&&6&'g:2/*?
    '&$?.f`*&*2%i'&Y,_4'&&0($TPkG$U$kC$pL$D%gK$D$i5,K$f-$L*f'*f>'q5$gL(Q'gc*fR%&'fd'U%f4')$2$&&f=)fP
    $kF(/%&$fM$h`:fN&A0f1$g''ha$i-&g@$fA+f8&&(kC(O%o*%hA@2$vU(gfb%ora%g*$f&,)%r6'j,$ry_$'$hmUfWbhY/J
    '`*&;%,A)a:f%($g`f:rO$>$D$>$D$>$D$>$D$>$bld]'W+&1&*fj($kT$fhC%r1$($fc$l&%i3O)fG12'2&2&H<gD^@2O),
    ,%3)g?t;*3(0(fW1f<,/)$4/)[--+K-A'%f3j711'((((*.@(.*)/-++-*.g6&Z")

def casedRanges : List (Nat × Nat) :=
  rangesFrom 127 (numbers "
    O$/$)$*:&B&h&&')h3&>h%''%(&&$+$&&&$&7&f6&g.-gI&I.Lge<I&$*$'N'&oEf9')fq',,N'&f%Of$0&EfJi9')'I')'+
    &$&$&$&B'X&*&$(&&*(''))0*&&*i*$)$'-&$((+$&$&$&'&))$''*()$6C(%qVWfk;f`'fJ+'(%1I&$*$fee7Q7?g+f1&:(
    '&_*%&$&(@%($qZN*,,f3sn%*1(u.=+=wJf3fEG)GfY.&2&*&%&.&2&*&%fj(V2VggRdtpEdwo%f8&f*&%'$'%''&/&$&*&f
    $&''+&*&?&'&(&$(*&j7'<&<&B&<&B&<&B&<&B&<&+fkY-&7fvFf'fnQ=+=+=")

/-- Code points from 128 on that may stand inside a cased word: marks, modifiers, formats. -/
def caseMarkRanges : List (Nat × Nat) :=
  rangesFrom 127 (numbers "
    M$)$&$)$'%l]gd)%)$.%&$ha*h4$*$VP&$&%&%&$Q$0)/.&$H$/85$fJ+&-&'F$&$C>f@.`.)$'$=;P&Q$,%++N^]$&$)+)$
    (*/%2$4$`$)'-$9%?$'%_$)%)%'&($C%($0%_$)(&%)$9%;)&$`$'$&'-$,%0%C$c$1$W$($]$&&*&&',%0%B$`$'$+$*%9%
    A%_%)'-$9%B$f-$,&&$f?$'*0,fG$',.$&)f/%@$&$&$]1&(&%*.&G.$fK'&)&%'%>%)&5'2$'%+$4$fC$nE&sW&B%C%C%f%
    %&*-$'.($*$R(X$f&%G$f[&)%.$+&h@%'$`$&*&$&$'++-'$L$-BV'U$&(&$*$M,1%E''%&&^$&%($&&`+'%f%)f7&&0&*)$
    +$(%Wc2$GfHkc$&&0&2&2&2%1(-%/$'$'(V(&-&$2$50XDgg0%fV&fc$4$fECT$l:$I'((*$fB)fB&yi;$xG)i3$fG'&-&$A
    'f5%3Ef3$<&fL&(%-$($)$>%*$g<%?52$K+>.S&U$'''%6$:%f')'%'%1$-$H$0$X$&&'%*%&$@$3%*%&$fI(.&f_$'$)$sm
    U$g84mc3($13G$'$gN$,$+$0$H$&$T$R%f($:&m&$hG$g:(u*)&M&,n+&&%*'M&)$gJ%mc'k(%g>.V'fa$[2N$'%/&V''%'$
    )$/$W&I(&+d$1%Y,/''$fD&'$&%+$gE$(+:%_%($J*((h(+'&&$<$f9)&$)%&%hS'+%&%@%f:+'$&%fO$&$')&$fJ&''&(i(
    ,&%i%%&$)$g5''%)$E-M)''-$.)'&S0&%k;*&)&$f79'*&%&%f`)($&%&*&$f-%($&$j@%hwa,ny](a*.'u0$f$4f%%&%ps0
    '&*&%gkC%&'hlAQ':mE&.3'*C'g9&fmaZ)U-$3$;(&2z5*&4'*&%&(i*1jU$c'ffE*fR+fyT(fhou&$CfCg%hS")

end MockGen.Text
