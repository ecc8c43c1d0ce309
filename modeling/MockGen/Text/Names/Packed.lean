import MockGen.Text.Packed

/-!
# The names of characters, packed
-/

namespace MockGen.Text

def packedNames : Packed where
  code := .ofText
    "^^^ ^N^GM^^OR^^^K^:;U^D^F^^0Z^^3^87X^^^TI^^^BPH^S^W^^-^J^56V^^EA^,^L^C^Y^^12^Q^^9=4".toList
  count := 349135
  digits := ("
%t/]fR>$apBm:5SB<PUF;$F6]yzMs,TLREb]IOBEsr&y]?5f-T_FS<i(K`Kfk.I(`?IZ*W$)*u)$6hwYmtl.9-HO?*p/T[&p/gt
TZR81,o9(X[7Z]z)6&X88B,WQUjNZPmg@C*K.AgGE5?oc@B+,C4tW7M8g^=O8nl5F$IshpR:P*p9Z)SS-UwiDAtGe;VpU()r(]M
)t4Ccc'P50EdQ%13pK@HoFjHFR3z'_H(@bteC3ge]tN./r$fuH*]=s4;vDoN`9])S+LR[lJ2*_CJL*Ig_p1VTF3v_B$pr1B-OSN
-8K-lYd@?tYqvhWOgzBAk,tk<YMLQBBnR+'Zg6%%<v0PMwYBhbBnzV/lxYd,XRgzEj0.A@)b/.L8kXq)^6E9KwX3?*;NvI)]I,*
N+Lj<G)9]OE,MNkX?.7C3u1%9TbSz<DrJ)FNq1*LB?*a5IfNAD]Z++I]Nt2&0CXi(R[LzyhRRQ3&TSRuG[n%dqE(DD?AG0LRd=Z
0v3eV?BEZ9ukMAl]^M6lKP<o:6Ew6<t'Zb_^Hk`@u<%Tt]'lDL?$I>35vY+=vatT,j4B6hQ7[4NG0>lq'al*.VXEkmEi0KZKR50
iMW*:;Q5:c&&%3WNb`Vrvc,ww+dq+)@W9hFBmm,xMsJ='Y8K<ZozdOJ/=M'bjR`g<F23WFC6muPb:;tk3_c2S6-^:/gT`F/JhIN
):zH=TaH[DC7SoK6kR%OGu`)lW?.22uMr3:pBgmXs]t[/'ua[jD'>OOsF]T9W7y'd=OCd<lI.zE8x$@IKs.7@h2rOYn/sm/.eWy
VZW9ExwvWCLflEKuOgzjFbvwR;;SBhO-uQ-aufz?@G<smB.S[P-V$L2OYP.pKGoWSZ]Uw';SSf&7mSm^u?j872_a6M:y[&SG(FD
64)@KDVd'DEJ-aV?1C_I[q?pIHj,B/I9tpnj;F-53YOWTzsSzFKWQ:YMQ$Zk<@CZ2TGbdb-Le5)JwzR1ARhgnMJr.eHi*@]*1Lb
ZPdbsqTq?W..UIUM%kwM;'>.+j>ukCY0N[B9S05gUYy<j8O9qwB/fipG**%tK9v&]ZiqHvz4IYtW)_</tI`1pMqVGoPZlb7l>$.
ZRb(%%5(.SWw.4vUrD0(<^$OT59>@-?9%t%>)&J<6<em2W[@^dE^oZ*A-Abs^^aoA=Htr2LkXA=8IEBQHn>3mxNMYTm^2*S0evq
HI<;BlZhOWP2wNarsxg&R%GSsYx`5%XDqF68qd&$@s%;2gWMog8t*0,C$qw%Ak`]+_qmXZX+ivMMzouEseTWM-oZ`-l=t`_,y)P
?Egrh7e%Mh@uPsy5xfy$c$RC`4xjR5SG4A:vS1vGCE/TLqCaxm1vSwSv?4S7==5rTM(2+VbZ1CBvwAON$C]Vu:@P5DPf8KlWKg5
V_VXB3&IJ,U[7P]Zv2>I<Y14AAoJcc14Zr=V;VF_-0R?*&`cZ11rq?PjWZ:eSCp+?WB]spn'DZghZU>>P8,)hg;KSxX';a2v$or
_5^d?e?HU4H&)*0)4&[$?<FRm`i<j-aJT4@^SE)o:GEm/Q;W:XBW6Uqv7xoh78)lsOoAi)*P>FwM2:bEBfQhk]Jygq>XWnKn@iZ
f'd3YV@HHBsn9uId<%Hiv[c>]F/32Y4e[tl^OJgrtvTWUh4`(*i)gVmj'ng&XvDi3U^Ey/ygm-`TJ5IdWA?EBsG.ibi5709,w'a
:xdQsXg_=75j_.-BXT-Tro[Zev9.A]N]3l>E`nD3d,`Lxlz6UVOcN4Etcf7e=Oc._z@w3qp7,z5qxUU6%k9YBuhmTe@MTwF56c5
bxSHO'j-4Qemn'ZN)[(S?bxuMwOpK:Np]SPz(&e'jBGLR8dN>7(09:aJr`fG`[vsUg+j-B@sd@G$@_nQG@;cTWUV5A&G5)K,l):
Pu=OK/&cUl88+m>?YlXGjfdaPhHmaY;Q6Yo3RIeM0K=wd)IWxx:SE5Z)ggvbK[=a9R%Wn'[c66?rUfnByMO_Ofr.H-4FKh?eib^
p=NaE2bbLGO9T_0L7oj/?<f>)=rP7Uf=Ou?jy&$SFc3ShelM<g'oKbE_y^sZd(i+Ha^CGR/=3$y&=%^Rz;7Tc-1IPj2aHv,9L%<
vMOJkdrlQT7;>)3x-FoO0PTrkts38Z2.e3XZ9=wZNbNwVVm-fYcm[>%O:kn'.Q2R3ejgSSeL'K*$P3n^L39FDjC>d[v(3$)g1UD
X[h[g,CT:SYj6t7B6TeZBDx`8?99wm%?uEly'fjO.[OFEgcflY'W3]c2?hvX*:Uw<9CE+uMn6aJ`.PL-we95*8;)=JQGsvW[+c+
uM>Ix:>S/7Iu%w4u7ELGg2/nSqY%CMts(;1NW-*CC,DUl67x,6-bww%9x*]_1Ym>eTb@E7=YGDY2:(je9<d>Yc`w&K;Ek8lcntE
=^Rf$M@dS+;+9?l5WKYwl3iXg?-Yg1Q=mV37):EzA?fW4Mi?skU['(_ykXIKfZ.N/$lFl8EF:u0K+T3Kqib]Q+u4DSN'GB?[d'[
V2:+BnJ/@0-9JzuZlUkeE%z0h@A%>b9j>H>=p58Aev8Tc)IYeSpGStcmkB1jrCkxrl3(o:e*Z$Ib7uMPvToI<w)FR>priuq>`Bk
?q$sG&h];6I3$?Xtfe<c,7wc@>Yyj[H[7[kt^kk(I42[o&1p&nA_m=Zj%5?DysSrSC,2,k-l(mkrGq^AHc%S'fa>9Qg0G31.6&J
c,_s3azY1]M3A1?5u9V5y8SfdA=$.X*5dIo$HJc<^,-`N7+uOZA+Uwaq[.UW9niNgG::xHF4&u85hZGhaZgy?_FhBA_F-=/nVaN
?m*s0QP^6wj/niUbN`DVq]OUR)%rk>IH;Pq^2QtIVfOjOC^2^ve]$-$38It/6Rpbz=crx-aK7[:I_%:epjoJK1YID&EQ1gz3(nB
Ukjv(v^`^]q;j3l**Ct,jCdHhuWLVBMtuxan*%r=j_q,e>=w0()1k1fd*+D9:?qQN(jbsazH@Y6)Bx%1(([r]VDA&QDXcbwDT:?
^Eu]Y+<v*lDJM02VfQnOd].ArI8:Ny3w'5Fh]n]_/mC?M97v1%;[NT9/50zN)7mZ$xQ:;Z,h`F%oc`$qQd&%>14ZC`MI*VhvNv%
?u'.)8nSbW1df99wOx/WiQ?R+]C4z3-V]y*&Ce=t?4+,X+L4dF?R8u&%,b9r/BS4Tnq3(^pGK2z3jncBy?pigiJ=E&a=O@ft=p2
d%OfJRf@^t-Sr8D$M3'7a':==4E5VTh3yCu6zZt+aZfvmb;:yc4Pvhzmw@C,t,ae,PN3+.w^b8u)nLWrR;]0.Wr1Q(*H8a/:*qJ
ezc=V]'3w6FDfZXR@-SzV=(oY.WPD'Ewk1[beQ*GX_@RmGPhSn0SW9h6V<+-nXK>B@vYEeCF+el=8J$^=.1:L:=:_xsE&H*?z[q
'r;Whp8vbJ+jL4^nLHr']dSf97BlX8Omo9RNzoXTDnW)J8W*zaGQe@SQxy'-kGz@OpBYDwl3?Cw>73`jw['CIUQv'_L16XE_g+_
1*Vj+dw3GwxvrKme.76UR]bC,M/G3&`V>4X.zL4Yy0SLY]Ekj$',wTQi$M%kCW6liYB&RP1AlO'kWp,EPqb$TSP/UQY(aN[AP;d
EXnBs2]f*(H&Dfln,_G`R%j1Du-58Y1R[uj1Ic,P-x5.C>3UB`NpUp;:&sHKbLFsm_d,:Jj?lD.SC*s0.ay]6?&o5koAba8eI`r
T$W/RfOi$OI`8_jRgbSy(8KsOCK-fYw)7iB<Z;D'z-UpE6H%[b1rfKv6]ma%fdN9e?neaG5_pZT,go7b4y$t:Wtplc%W;D*HLe>
$zbR;m_n*sU5i<^OYgW)kK3SgoAqm%yW;oJ$G*q;lEL>+JY5CjS8o4h%.@C[_Es@(M>gA+DL(*QXRqp>>,2Vj*kj[df=%siBwNQ
jO/p$P=yfp1,vwr;aCJ<O4iOKyT](kg5t6ku<x;dxw6I0rYOi1&tT[4/]%ME5z/_E$^r8Sy,v0u6X26DD(-h6+^o1Kv+('pnX5q
:i2Q=x<1x'gmrJDC+0T*g631r)dRaKs;g1<HruO2?)41)$Y=bo4e%TQ?$z`=7y=89]-s*67SHG`//R?`<1B1Cbjyq3/JPO%]GB5
nbIWOg0F?jzfWd'E+=q?d4Jk.aG2nwA;u.<_n.s<_6omEd3?,Ox8:(I?GAX1DNaEsk`^PzH)x_^`06w7vb1pdX2iL:iLOot:vWB
6ZbB=@]y&iKu&/z_6nmVj%E8n,J%xQ2$4LAfmM%JW5PR_QrdtyfttN2ec-FA>DQE0cczt`WRx[^in8ir2v+FmLY1kUtM)q&Rpy'
?(xs@f_.cx@/VE1iXWJ9]i>Bp8i]dj(S5iv3*Lv%,pNH+yl>j`k,zlu)QWjd5WP/)N_<mEs*2RDS-M+.wHD550d>IG55,^8TDlD
^KwjQK;:4lAfbtpLsZ^MGiTy,(Zc0v=Srd2@**=LwRs`;pm/tEp3=nM^v>i)*B8gnIXJ:KA'OeHwZLXX$:3)ooKF)fp;Ld9uLo4
8+0x1JwJ0pf-puSfm_%nFS$r*_>HJPg>vBQ=EbuN<;pdR)N3pGp:-ZO_cd-k7iX[T&RK3U_&h]yM-h4XiUnn_9.la7`ddYn8C%1
]OrNog&;0nA@?R'bFvx@KWk+G;geYN;V%%s`zZayq0;NM$SI3K'%B)j0b&1NGJfH[%Ke9:6$=Gvndh:FFM3*luHl)]Mt197,[8@
Ss[WQ+l=Cq)$L5XJm-,WskL/TAJw]1AZQ4b]ZSxT+PBAI?G@jA<Po'RfYuE$jsD+2TT(d60d1EIg0vk8v;a9haOr7nV.DRl,7Om
I:LcOR1B.*zvAU'<rz?-%37<C_S$zfAL&;M.g^3HZx^%Iwbc2`oHtNU&/(Is,,zmawBJhvsg4h'w67Wv@5H7NcL8],)fG2Kfz.N
U_D(8<jYaOcJI7LRkZ+p75AAVa,z53BG7[E^.MEPCRb)<ROJbe^n=:0WGE6c'PDCGYqLUQV1SWqsb55[HGH$K@R6xsJBT@:3Brs
f.TzZ6GL?[ySnH>Kz1C&]ZIgrJF;a[&Ruus(Li^7Db<J,Vm4I%yHjysO=QtR>/vn`77(>A)96>&3(z1/hs:datSc`(>csDa2VOB
B1ms0@Wca5Ool0vSU*q1(Yx]m0oj?']+zf6FJre2bsKW=%@AfTL*A,4?at,SU1]kNe16DDWDAI'Ecfy@@.V[9R1L)c)(p.d(K@q
A_5X(0Q,*.%E`63gqzHJ'*R;WY]:=gO@)eE6pFSwd.X'y+??J4DlEub*QhA&rW'Vj82-'JDro^R%Os$QS;1xUT.3MH/h9b)TCqD
MO*JM)*4mo.wc<dcV(KB&p_<Ax@q)hw:C6Ztw86y7Fx1`aBeE-u]OAD,22J:wFwQ9B<socRUQ.grip/ISg0o*`7?U6MNGpt5HDQ
vw'eV4emqR<k%0%?'bk+Z,e7=rLl[z6ASE?^IF[ui=G1/?HfM<qq0//4an1&pyjT=`&ijA/2c:Li:v0qtFaw>&7IA]8Uc1/d.x1
^Nq4QwN=Y/+vD,afbQ=lGt5BE%@^1LNtJ5`AuyS&['H3WHQ]uP9ncfBr;ld4$VLDE%1Hgw?zvdbV[RhTXcKNgDKlS>'<jq:,Hb@
9:(hyy7/i?ocUv0]>HN%sU:@]jWe>ce_[,;-h<*x9em7k/fAz1gLq8'MdjfJD*%piP)btV2G`e:tFk]bpYc<I&&2gW%:r%WSifi
uPNUH2?h7E%0*hT&tua'ha?zT-kOfu5^q[_U_aNHpRZ5cSxGndgPEkUV3suDHiY<_3(,^V%s/$bOkh1iA+Q]axADWmAMyP%$3ty
*3kb.'CN.U%3FwyBzA-lLf`ff*xy7Z;r^;rLuz35s^Ta&4U47,]<ktX4>ZXj/2N8DO`8E8G6D-uGUq1crGmXj8v3+ze,X/02C`.
Qk&6^V=8h9QWHV[(63qpMP<evMWJ/Z`L30@EtlXEPKWbD?Pjjs?dF8%^:=wsdw2ubh63UvP%qfiF,a7'fEsR&Qdi+xe1NM8.b>4
2LZm.:X6x-^xw;hm<7r+5e0hTZ12pyn?).Aj1Txb.-M/RwuJ$<kEkfZ)mXhN:c3NH&/%9oM+Y+@SBDWaW?d'W[etQuRpNUu(czl
HA>c4q+vMe=np.jDM*n6::X2NYwAsX8frmGXlu_:fzki6pR-hT1*L$6dXK0+4[:R*GWW8NP,L^gTIyP6u/X$R<:z8V((4/cx:;w
7@8_-nMv_2(A)wRHSKxtt`Y=1k*);_NaP<8D4Uan`^Su86nqHV?rGI%k[^rp.&R.L:zm]Zf$?L7RnQ.sardCBq8-9JmE'LL%6Vt
f^FIJ^+sw8am<xze`wgwvto']DN)Lm<?bkHIwc>RuT*jgnkUlxGtupSaT&E_jq.gZf,J8.8t4WtKT,`lhl=H$x5(f^wK6u9SOYZ
nu=eysEx_<6gbUyh'4Z;z91%iPL^a'bk`C2PE(kfFoLR.*50yde9AiG(-1H_q-dDPo8$,zix(+3zR926ERr5CqrIw=:qB-/aK<^
6bop;4(rHr4a7u<P9]z2Oh?<NzgRu5L('2*'VWHZ13sxh^Zi_65D[TX>ITn3uYmQVlk;vFd0'7n^o/6q@H)N,/Tn+C-*_8A5N+.
q8B<gIeg?FRW=^/nPyeN3[9N1T7+JQQ3*P^2s+5v]0I7T[^jyr55V?Fg'f0=>'g8.4LN-%79'>3jG0xDR=N)sU-qH,z-8>[PYVd
@xDSs8.]8+Q)Hw4aV^@6b_feDiePbHQ5m$Ul]C,X(z2UYuLD<74U7)$f7HR1Y?PyRM>Au%SWWt%OG`NK5O/x)tS1qiL-g+jXQtp
<dJ&>u&/^k$'o0xHSeV5YS9acXs@'<ZQeA7e^@raRM3L5^6a:]LJbQ@U:?])fBu>=6qeqIJe1Ie:f.m8?L=)>_]GALMSvUg2d[C
'LC=hH+P]0>rkpj&c@Dr/u&^>%G.>[VD;lZekhO8LH&b(ZI[6vU,xOlmkmWuS0%RRza8TTR.G.EM5[u-J8DM`h&-$3U1(gO>B=2
k_DT4IC5M^*._nRm)hBxFik&h6uv/Xz^ZLsAAI5f;9`tKbNq.YTljZ0K?>8KwS<n%Eo<4CTDkBIa(,=y_1L5=jTF32vy'iAphbO
RzcY5uki8gAn;>FDESTW*dQ,9AE,]MjzI9sLZwfnt$ns4.-3r,92BqII6YV)s%a2D?>%GT8wNABGd.r_&WuYfzYSiLW.S.y$wJX
@V?Dn8aLa`S$$1L-UH6/f1hovE8SmlEk-2w1)Pl2J>`yK-@F^:_leS&0=nYT5Bax;5@0IxR,FHW+wdA5Zr-W8F`,NrJvg7Va)Nw
PEDW8Wx/-_Lq3Zx3oxB/1>?l-Gv_lcKsX@BZO]G6Bh.p94r(gv12v?lHI_fH+k(GFxC1'>Q+L.10i1[:e)a?.Sj%=6X8&%+z_NR
H2*HOiD9U'1AK2[>N8QrXL,zTx&+5QCHd`B`LQUe9=7rcswT-*2hq*51$TiO>hGgL6ST)7xpj=)4yVi,,3fq9zaqLjwrZK*/SOd
Yv:bw8q]DdRu3g1A:@j2yLMpm8A]^9uqB+.>mZ;F'e,6J-vkTNO0>YvVmfpL*%lJv7',o*;4cAK;I;3n;gD&ja/7G4is8Hpkh=/
u/f2Y/U)SQC][KS3[/b8j)-a*7yaXN:(WT:sbp]HHMXvwNV@y@I^6,l12icz/bsm5_YMI=cW;lAtTv,*y>^fxG9?CP'o-:P(@pB
[Xe9(LdU8rlr]h`-VSR(xXz%_ft>'/Z$q]v69/rLYV1&1`**wA,@XbrU_*wE>]PqCm`bXj_&:aD/-unr&o.z4_7XtRP$@Ytz,3J
(b9>tmQ.lNclM1IKz&;C@ppak5f[y^Dq$/De'E,vZu3pWZC'H>v4Q?*YnQKz+M+VSB..v]QUy&eo5.tOhgHFI<25.SY;[WO?P'u
NKBvnP1q^WtX&._S)'7hMw)M285uM*_PV@wbqFZ3R+iPeX-s/EQN,N-*3dX-C)-t%tModTiiAJk:qrLA1VwtIODtXVsKLGTs<PV
-Qe+LL2uoWodJ@tODY@Oo<'^0K%?z>_V2SYN;j-;mXs(]&sT(Y&F$RwE(Si]e%.d/G:vSz+6jbSb@TI<3UN.EZdGC9>tpJK*cxn
)tA-?]?VYg+wVk]exkW$C]XF;B1e6&gF170:9JSXuTwupm-V-L3Yd^/;n]2^+Xu99a`r_O^gxHcuuWM0yTExGMRH0/J(l`MaDC;
W.L8,-0=*D*LFNrIa6`*d)qb?Fn_P<]h[PuTzd$JXME[Gs>zG_'%$KYU]XYbP>*apQzZ$uwWPdbi`MGBz09]$A%[>;P.`0yx,-/
2*ZTM:c6+Hx_?y()D%rD2OdM822if6it%vr]1)1LmS[4Uqjom@2%ZOQ-YWcH2h3QV@Xj5scHR)8&88RwTF34=,fE8vkGdLbS;/%
*Z>2Y+2dPVgISo_H[$=M(LR,]cgJER3C'f2a+@,N>*Q&ndrHOpc.;K$(5bL:TZPtDh,ICxK-+PZ4MmdZ1yYjfW^IuG%l[V<<oL(
hgq0J*o$X-lKQ`ZjR_)+?ENK*vKI02/c5W(eBufpEmVAaXs_>ht1V<+-RsS?nD,<?+Nq)sha9Y(:SU`I3<v6tig%,U*V1OH0F-D
T`ag6;E8X4(6sRrf.c`VXtF]G+Gc5bmtqR;dm[^VfaFSZBRd$5e8wU/*0k2QCFvf(2]<nJoDsp3`O_1a^b1rkg'L>xZpI>e]aUd
NFR/3hA5Lh1CkRCX^HdgD&0-kw9n0W]E9h+wn$Esj`t.c4W;Hu@[M3:YY>ZWxKNC_guw`;*byw$KLtm>>zuhFyI-(-9>I:g'j(W
g(3>px%J.mFYgR].;)a96Mz]+AvP0'3sUP_M**$]=</H9EvstbS`GfyoQ0/+,s.HjX_mid^`7)z`/mmasx[@/8Q^loyfWgf%cdc
brT]/,RU<%2Sa484)V'K6G6;'l3R5n,^lKh@7n2^Xtw`A<0vP^apsC7ir2,T)9@fQ]d1DgxtO2[c[Z:&?]j>XXee6zD%ddh<cDj
<tMiE4f@UODu-v%a_IjRFXk[QOGLDxd.IgRn(>c<DNOgWo;21@hnhW:P&D>8M2tF*<`9Ut^h/&$`Q@9^:TxnB<kEUn`Kiq20:6r
c.yY1&fO5VI`MF(>%k]tIFRq]D:V2En*.JFsUb4aCDc-1A6vpm*Y?'x[3eQ>BTsZ+;6wKtiKN6Q/ob&w@Y*(Yg[0drODNI1Ns_d
T1TaRC2[5]^5c)53*x/z'Vc1kcnyICe`doli'jyY(S=rF_V*n$vG))`wGM*Ec4?U;0G'?zFQ:k1J7aD3Ee(n8[iQx4$SIXI=B)r
Qr7LeOHBHLsmU<@B^)R=nw9I)EMq_pT7jyLgc?(Xm,]1`bEG)qxPgqiD63la;s`hghkF651EW1e?NflV&0Hyu::@-s@lF'CTYF]
,3DL]@3j7zD_/Oa,utim'L3[9HAK55-j3[(/+Nemv,d<0Gd?/XBHKZ:>g7@ddG)75^Jh%p]q,bW4,0oSR2(R_Y[s)6ZgGouGhQ1
V8+m1cWvBuF$v:Hq_``A4?t@?4_S)Rv/rhF$jWdXWY9*,Pq[r[iU(pmueA=/)Lg_obkNkZIZv)eaHK3Ni6vfP:iyL;WBtLXm'x'
bplDAkJq>?u,2vMlO>,Gkc[+;,.CcPS,VfK4d6eGdgfx?fM&%Zv'beEjEsybn,El6WownbR7/w',E8]exCqAY[e5PA4-'Utu9ik
R*^E=z5Bq-33zL2;-xbw.qG1-[r4Q'<5Fa0&D-yBttXlbto;9DDEX7,mR1,DYhCgF$UDf/C.C^fyvdgIs3;bsvD=9kuu<%aD0(y
y.AJPGYb(L[Z,.iK7g0>$yCA@-4AojC;(^wjSm01Ayv)Qy]kX]Ze2oY@>haK]egBIPg=.x'1NytE-'(FyRo=DN2PAnGD%9cm'Ma
]fhB2kD4=VoSJ;i(f4p%qZ*CEF@'*vVoK6e-?rjD^4kqRC9l-@]<W2$P?dfXLf,ANF17Jsj,`%y^A[])eBE]A;/S:Vuq$ENfDY2
eB/+rV]igK0SRJ$oWJ<2OR&7Vp;d',:Hv05Ea*%99Uao%hybF=RX04pY8g:,%jR=LPWca%aj;O8_W<r&Y4^Ff2ekUg0,7H>yDkD
Z(z&<%aDoHg-EM3&Ky1SYN(KtJb/CD?<Od1QZybAupaMc$L;M;V3=<GqCk@vg?35'a&@i572&iKTRrnCc%C6'Iast=,zvZ6DxiB
jGw23kc*0p2+QcK3aUIugO;B(fx`Zt0(;daMw%N3wA1RI%%B5%`b6tI]Mv'M7O_?+yHPOEr)v^1cET&TLnwED;N6-Z>Ji:JUX]I
LCXP4Qw@:J/'4.:Uwi<Q89tvnAzfhSVXw[kmsYz[u0VO18:$wKP7HB6D'vv?Bt:++N.BimNNt&Co$OH&3X+UL:TS<3FDzS<nC:g
Z]EwcPKgxq_'T+FLk-Od$92KyTDNHTY_VT]1OaDa8ADR3S'E3^UgD`fnlw*P]^rls9zC'iI4K-l4X*7PwM:^+Fq@;.]K%=KERed
,t?Som5%,;65t+N[0ClT`nz[ex,w.*puZ/Ypj-,rHDgun0eb0;nisT'<^<Va@9]NMN;oa>XKP9sWC%MJnt3$gj/CY8E&fGdCP>,
:.lU,MqWbE;m+QY6306<.5.*v61/cLB0oRqzC;SE8,3py3C:)Ya>Cta8BeqSq0FO.=Jq]T&ER]/IB=[.oc]G%Na&RyA1<Pd1;%o
G;LSe_=n@QK:&g%1U7lSl=g<TopkM3(`2P_ap'`onaPY1dMORBGwBR9v2S-M5VSJQHZIr<ht>:a^8m[=7rkxM4j1?xN5heznZ@7
bE`&3+bugzF2%whq`AW3$MCtu^-GR15wxnPLG:JF47qeEnCgcTpl$Sv2kByr;Ieg:&:sp'b50/b.,w%F9@9+&';VdF)DW+HNkG,
]2R%@PsnvK@5kA8*Ibw0TBvB_UgoRzA+_N:sIjZONc:wYehb5-+Xr9MB$9c$BW-9MG=Qr>(hwHw(Qr-PeAAVLZrowZxcx`)n.u`
z04erAL;ndCAV/wuW6J0*Zf9/-<rkAcuDX`Y`EKf1tDrtrd$bgtakcpARu/%B.G.myT$396E:$T*SUAph?_m]I$&[Ld@hyyjEcN
v:SLPwkM-T(G7b_6T`I(O&xJBC),Bfotrgc*?)L^cGAiTt13W8EkgcaVYi>G^%Q.A`.owjxt7`1zm5wix].>JkXYCx*-hBnz=KC
GAX<3kv@&R2a^cN`Wk43w*cI`xVnq.Vy@sERh*SpZM_YN4&omqYW0wKD,6=/hWj9kl*2mK><c+9m)x2XPf-/SRL]s@cAD:1_VBM
&3V<k-lrrDCg6W=;h1c58;5[R6vr&svD,G-@ws,Lm:B[>8076a5j6vwlW@g8/M8s%PWed%h2oks*x[$wC)@'LQ&ak%$t)PzoXFn
6xe8H:d::*e95l$sIx&L316W:pd:n9MFTfS;)G8wolU;Fy62IVQ-KNyk,ry2rZlq2)7'*dQ]EJ*M6=+x82K0CaCE<?SD?9DBuYs
4tpiTdY:9?g](i*pO4wIN/)8]+k'+c-BUE'g4hD$O9fa4^yr(mRE.P&-Op<nfq3.DF_0f-)ZM0&d=F'%ba,V;m2(iJTukF8KMPg
<k_bYV(Fps>?-Tf().wR-n@D&P?0e[&_;?aYxtIBkV)4hwT1%=@-@t:6n;Yw[mHxl?i6w6Q'%FXh@-5mlfon'P0ZgTISJx$ah*&
9A2HBCEfst@[/POd_`rYzEscI)qwf'Q=_M;'y)@YKauyA(f)]bwU;-&YaZ5L.ujHk8>VJv<*;xcDo`>ZMe:f7lKAOw:uT5k6h^F
C%v=nQiJ^/j2=u2g9i'=vhdD38WX94P<9JwL6Jm<8>S:bgzEZymh2g2zDSSlV8w]m-C[QxSP(+PdfnTF7'Ve[<h()ifTobg3-GZ
tM7,7i:Nn5U88XVb?_b7nS>>WiBW`KIH?6laG8?C$]EKk0M?ex8R@fcUo'Ih3eD/tBHwOntU]-WU$qE;6?UBVI_^*p1z,QeZcbd
sd$BfJbvdIpF`-4uGpecH4s$RO7JR<+jg2GdfES&+e>G)`)i2[chPgri,bw;fEnxZZ0Suu^6p,7)Uv7UcZaNB[chIfLeej%7])t
E)=$.'jG$W+QC6mO+3H*,RqOWeZCE[]T^z7F+NV63F*C]*Rio'hb+1zB5TH3<:_ASYCuXZkC)D@^6]]6Dopk/$`FH4:2_ov0f&a
kPvg<gLs40>p4PiYMYQmt)xA(ukAp7bvB0e%W+u^bVL6z&.wA5dj(G;GR[9X;cI.wl`(ej>S+Dn,*Y,uB9of]&2$uivH,-']d+I
%Q6$qsGq:;.l:Pk6FQl92M&jS4o=@IuSQ$a5KZQ+6@UK4PM_^]%;82ar?$W+_'>1aE,]u=4_[7G8kKDN;L4C5%mHQFjS[$H$QBy
LEJg$lnC7VTk:Urm+lpM&q;v^Q8B'SUD5W?-%JMBfw8@8r.=6TAOgMPRW[j8P_*yORpIjvaq5B<Ru)IxaE7o5iqGsHmV;].di&Q
TffSu56$Vn<anA-tIh(HMG2B.Xo90z6Ph%`ZWY'$eu,nj+6=3w4D`d0m$t3IMVP2-^bfFOpWW/?0R`ELhX<ksN@9([?z$E<F?N.
fQ.3y5bzNqh:0`IcC<Zomf%1LOcUwdUA_n:Yjmv^,$sl0a=)h;0uoo<'J;'B&Z@jKj7O`BN+-kL49a379TdCLyIpih]nji+bbQ@
MMZr5-qUbcd20hQxMC'n7nh1[x)K_@_aK<;&,73q$If-MYXElA+8yJQr:7Y5JaAj5$C2kooqtnj.xD)g>H,,O<M&/0%<LXN?4Ae
>^P=QFSg3Af(i47JI+ui5SzQ5Yz+zWz?X0uS--d+qiOBe&y3z7o6Lo`7V=^YPtU)8h1^OD>_oOwV^2R,kWG8X$o,XLUK_/l/1*=
jc/GTx1EImV9Zd%-L9Y+if[7rE0/Zhj360>%4ip:HXDo=XW'<d&ip>A--E<U6q]]V]9;]Pcv(8@CLG1>;4FN^aM?QBs*>BQe2<e
j%mxMv]:biGrHMz/WH3&rjz9%^6]^)Rq+./U=PIie'Vnl5o>U&(>PrdamB>.OHC4UH9bRMn,ptG'@Y@qr6Aui$w5k1eAR^],jj-
l(:i.5;W2vUh.aYX2=fUf7])4h7oq73]0E+j-=5ouG_3]<?)K67C5^6I-`5saasX?<ypgi2A1iCo(,th_hAj&wNfei'6'Xa&8dB
,@Gmg<S_*W@b25w5-oIjE+ux7J$=7K_zpOz=.KdEq)AWYVcED?`Fu.g+Z_$+Gv3(THXknO/VK+a@3Z*JE_xcI1i:f,*2Wd<2F$*
H9T$=&<$r=xF:'OsI+?5xgQHGkjbs<`Uf(smG$A8yxp.;X[FqorY1@qil52KSP4'ndY7xN$SoYOv3='St;4:--@JMDW4;GP9hX>
aJl%N'so@4`h_5Os46?nTt*sqg9[yUi^=_JJRVYjJPJt39NhZbyC3%vw[KhKn9$_%OdIgvWQ_@S2@YeHFAIlBgJd`v;3Rg]TM6-
PN;JJB]XazmePaNy0VKg1:]-)JE;(E<4N@_:knHIpL6nQY+3;`Un::)xW'91<v+^dA%-C*S1U(I@E5owuf8.gOnc7cGnyQ3-11;
nG>n%_5w=8bQ5wBO[Q['T'Yt]vsqj)T0sh@&7[>9cO5Yak;Ts(?k2I9HH&(U61jDsfI%s3h07DKKJ&%:XJrS,avFXehDQpuH0&o
Rm,iABE.BAA'73Yi9Zg&Qy<aFn$nVUHGKcM)I@GZXb)*2]N8X9V2)ImusAQv^H/5_z9Ug,knHW8vwB+E.c(dJ*TX<WoKqzj+e14
;T/Cb0s18<+jc:-9dZ/?:Bx/Byto@Socyl)-URlRd*shlNJVS,O;0jSL)X%=XFB+/nAg?*lx+k&$$EsWF]@q=Nu?((>sXQ,&KVl
VC9Bo/FkM2Q)%4HyI)lu=l';A_e,L=HVAWaxx2YW6,LV99q/K:HwKZGAvH&ft0BzIS&-5[O4BJ*FMn8wIWD.pJ(=XH-pUZE@cqJ
<E=U9sf:cr$aVyU:$:(x515Ivvv*rGu^wC`H4YK2>;9L^;Wudw<[`*rX02c[N+d*Hr78@9CJJc*0.oi6b:G9;cE2.^mZQp7e*kq
@8*Itf`&t+wZ(u(rz@ZrmD1?xiUBu/I^-WOTrHZ77%,;HY^JS0tZte10rHw:$j%v%y%OY.%e08hTeN/EFyTq'*0WQ'DkbM&3KF)
JDy/(2OdaO<tjx13^)D2[+dCEi&g>UJ5H752;@`q2uGIx^@cyq7P'?++d$D-7l$F7I@Ce<F[`908I,4FAe@-`V8JwaLl86dUrcz
Fpp3>fU4=8`IpHCHU=r>V?K2qJMJdDd&4.QAREoe-H11xWS6_Io2hy/8='@1U6ZJ6<Npyn.>b-B(n&6hs[MctOGfL_8?30JWXl5
;M15l+bQZ'&X=v;.Tmr7Io9l'm7KIW&VF98vVLZqWb&rww8'JQ6-TEgr(cQX^r^dK+$D'DOujpn)JAia%zA`t(KV0';AYEovv3j
hFQZ%N971KgBu48`GVg,$K4US4Cv1Vh^qx='w1r1DGE5-6gl+GKweW:fhU*dF2dzRcD?84k`?(z'1MWrAc>xT$KW)NkYBZ(y3wR
k(2lE4*rXIA$..7Si76FD:VA:5$))/steI?<UtyKM;i7NwoAMuh^8/l)m'CvB<y[5C2KDCKAr*'WU)^/dg8GjwPIzI6v*,KL+6X
FtrdK-wuIn&z&4[v%FZ+pck69eeOoR^HLbJH3@QK9TvqTWB)ZPb*j-q%=ZpAnVU7S&L-d1qJo55Fr&,<SoFdrtWB6+z_REN&p@0
j%SK8y5>qa9blJQYcn7LwYj*<vwO1k8i);A;SDdM_hYm6EL;If<gqquliWA-%zAFol(sqaHvML%o:Ba`t<V[stA>4)Qj[8[xRXm
<7`(n$Y(4j/1<@5?j;0,%qBn+sK?4C=,bNGFSE)--YBKeAA>Cq$ZNY1LtRm1D;>-:u1O>U>nY70]f$Q0>KWK3[$-7nMfffw.4_-
xu>n<t7iCn`gYyb4>DFEf>f228CU$U:dm@Hv]v'XRYcMKuZ%N8Zs[m?yROfM7HN>4JkYuH4Us$aT@IXZBRln/cK4w1]RZ/N`_k(
'Y6*c)lv.6c;h^:WGN/IDdo>Q??;)mrCNwr0[Ui*RDj89H>0A_%UJ8MHfw;t4>k;fU,Z;GgOfe1qv'a(Ymui8GGZoU7F*tPjL8K
0hn5Eij0AEyx($H,$I/4@eHHW[<bVu++Zy<quY1Ivh.ym+0^QfWx'Fe%rtRIR=Gg/T;eB[satx^Sg9*H?b./-9-R>hf2bqN>2VY
'FawpAtV1BXj%IGERD,xq&fA.4?@<8a'nk,)[77Zs4x?<9$NmMiA4)?]EA8o.%.Sz2)<q^5Li9H=-3JO+G`sZ=ahyE-EPYF^F;:
dQtw37p,VhI]Q^57tYxet@BP?hTc[qSyX2X9E-el=Ylh6la4A<2T^DIqFs=1<lW/Zjxl9<oDGCM;X_$n3l[s)fP7+Ssh9F,L7*x
0,]F.-x8H]3`&@wkwkm.GgkYEZ5;foWYl1S22;tzVQFhxs[iZoTJInBlrON*ONLF4cFw'nF?/bN7VWII9xYF?j9rep4(-&)Vz&>
I,wbjJ4a$N<)/OP/,I-sw*c1Bg4BDBuo&dk&2=52$$V9nsS2tsykAiKQzrvXrAXEC68yW`XPNLaCiNU1wGrxusR0mFEW+lsjv<`
lLC]vr'_:;'K6zCw=$5F<CgJB%C9f&x(33_YmH8*u^O<,Ft[:VxK$<2a]iYOtgsyxMKbhT1PGH0zTn&Z7v:t*_r?Jr.^.vSq0<-
S30N5q+-*FC-0RQu%2@Frx@`cqPyo?Y6aQIxzKTRwv-=Dnf=79;q*tqy[cD_g['p<F@K(vUJ&Rn_^6dJ@ANGFa.regPPo<3A'UH
yi7uvi(5`rz-'bHE+,z**HU0:<F7<+b?A&RW,?=ClNL?$k=Kq4&w.smmeRx4h79RyyjbITR`8pj^wc(+zEza*u,BiFQP9lGbS$w
L.W=v*RSQHk72*s'Sj:S_8cPC0ApEhJ@@46s,e_Z`ICJ;Q`1P=k8p'?KeZrvT1&vE&[PKu0jT-P'F-ud0mPKGkABtI<Sl[axz*H
&]vn58e%ulW*B&OEvf&+re[O=Wx'-GiMi-l-1kNfm`bS7xP/Q=blix$@6]_ui58g<R_[h(Myjx5i`P*oIwf,os*-%qxT[Ss&KR,
75D63O'Fxp]x9;(ZsO&BsoF=:v/,R3,1ExRON/P?k-H78RYKYBjL&_xoBoF&uS-CKN@/(.?4Jx^fvOgTzUIdI,=eS>B,P&X(DxR
-E'vG<-wu(<ZRcnE5y5.u4SJkzg4]daj']/c8j&/c.Uh;^J4ilT;DR2[=DmJnyj+aznP7Wn%H&)QmL^OW2`fQ@`+HfM&OO';Qo;
*/E;apU%'-?zJ.27CpD0r9BRWNW'Ktv4DWd[TV^%uF<KRIf_FJY(g,P+OBH4-a)RSEn0xd.fW$VSO@g4^t+z+LR)?r/G1gBd&`b
D/*8B*dg583bEXikq>=LbFkp9vXWOGV[5Iv?)XLIT0x2>m[m:H1E=j8x*ryON=U*zk=IN-HE/rF7o*kA6V5-,u(<D=]y9L%m3@9
%1ZLFy0)wD^`aB(L3AZxte@Ma8$<CsVl3lUovayS9[q*T<%Wu%L49aVom;iUiG(-togWayEOQK3Yeh_X_Y9htgBi_(8D_2krbCc
_&&8051]2I$zd$CnSBU-Ki9QJna]%dKg5PW,-U-X-L.uw1G,JBiHByPeykGA^yBE9UA;[xe'%2<]',6_MOe6ODDbP)3nfYI8/xs
;<`ciV^^:Fioz_mxwqLhOLZIpa6_ILUWasNlI1_Rm?dv1PVY>lzXS:UA7wPis@z/$:Q6I&^VG/]i[EZA5h59+G.l$@uHMy3q>sy
39Yi3GDCL&OEYaFT&(T_X'Ho7B`qb.L1J='L:`f0_'k)2u,jkW=_7rf)Nfd&KdajeAb4/P95c%UfjC1d0B^LWKB5L^pnAVm@4a@
j;v3z=[9(H0r%>[LE(ZGy.oMKzRQ*L.e(Fq(KN(C;L_0htsBkg-2Zvawewjy/nHZ/.wb4dkjEYYpTSm(4a=*tap_)+.$'PvQ4TV
l^:@,7f27-B/`4x)2CXOvVbO[&GTB-kJxDcIv6L-pfux'h4U+_K8pWt<RP9l%Qf`rvpW1SYz[B2nxDGwJ_wI4ODhKDBFeYo5j6Q
0JXTpDu9(A46g]8ax,oU;P5sN3H3_+$ZWv.yErh<F@c/s4]`VRRf-B[DoL>j?YHkVfoTTZkd1Ww([6pP99p.Rfdlu^qgi8FDH%U
;'mTOO']1mNQL0wN-yL*0MijNIC@tST*%Rx'Z_MI:YX$ZwbMSMcFaI(:+I;o]r'G(e,C$;=KtI9EH-*`6JxJdnyV7lbr7H:@FnT
L=[L7`+(J'bV8%f7w0$9mfDdiN'4;YY.0t'DIuJa):[y/_dZFIui9cP1nn'k=`dOJ$NGldH,)]G1j>'>7+i^T/d*rnHqC7:04zH
mXVgJ^5`hilbmDC7A^SwzdoMsaL-YA(Z.U<;*FB*aP]JjubjH'>kH%urO'sX-H5Mx0+E@xKe7KFP--&X_:Ex_OG>wZ^%iaOSF)v
ekBeclp+m8hlC'A/zeKQ[?n]JeP$3kF+2Bh9znnCmMMeWpi:Nn<[0_=;AQr9&v+[w6ygBRCo`]fMBdRp;h?*%YT[BuIIUAfOL,,
IBtsd0GW;pAux3;G,;TE4)P/;vn^d%rvRUDQp^%=esw<eK<Kk-I>_ys]+Ukd0ZrD4_gR0uA>c65rv]:Lk8UgJRD,p5kfvo6Iabe
*l,njijK+<Hdj*iJk-*EJf1V1?EG%CD<6;7sf4_N^Vnw0L?RAc<(>52AVu_JlPs@s7.p_@0+'mg74^A/;>e?%^U0ISo:ZMoGT(x
W(q=Qr,RClDq*sV8T1XveF't.K7P)=wpk$1`DrM(GXT3HMj9jq_>:oE;'oaB<`EiQ]Z7-U/yi0t)r6rVgI<N[wfs7=U%8H8Qz@3
kzEX'MEYx%IiT?c'h;u4jL6je7w2E=jaDe+@`]9b?wYfy?jjqn6R,y0r+6lNHW^Pt9kO<q&C-c.9V*D)wefuJ69o:jUneGb/AnT
3^uBzc_9Q=LWexb(V>lJ-%QFIN_LV4bSUSB1w.ih_gl:'c&tPz:qBf?AD4xg)Z7CUmBO-54xfZREHN*4Bvwp4Kzo;;(jr9C:rUk
AmQU9:y00EpQy4Ong?e`q[.')4&jbVq&N$(IN:3VK->VDv<lc$Uc]4Uqskp?N9[V8raMGeG[o&SfK)g9_a)du_GmP>))hfj9nSc
_=7R65e2e@ZN+XODwrjNAj7WO.@WQEVf.SiJ&$-Xr$9LRBfO)Kdq$q^^'KOso_cS]9yXI*zQ0=x,e1q9Qq+/q.1N>m3h/<SOCNF
Y.9lCwz-cDFl*'TFg]RUm6UE*3crF&2+wAgg)yFJeQ=?R)VV,Wv;4&J4gJLB?Go.Gq5sBdcb]7CH/b<DxT;QyfAYT`lOypYKb$L
ueNL:^BCoW&do100Z,wB<yXNtT<vSzt>0lB^]zI:vO2u+IohA+C<.SWIHja_`.F*ln0_2?,h5[^P+)W+LW9J33c+h=phhzU<nAK
Z/iTt5YV?wv/q[(0Aw&HCB?PZ-FtB9+/t-LxnSVVs',]$^*(NqBB>K`)o4_f;;vgurP<%jjOlQd5Xom5g<Q4W`eE,-c>)gMh@<e
K[+lA1t>S6wIP)%Bik-6Fl=UHG]c[BU=.U(<:Dw8ns<>)o0drPd*u@T:RUyW9Y][(L[[QlGhR0mQ5%GvQ`=Z?m3(01%]C&g8%GH
$fcT&PMjYGg&(lum_LP&;h@QD^-%eu@2@2Fk98FB@L<_F>H0Mn5SCt66iGL:m:WkIFT@VmB`.A7N^X`iM&1g`u73JJBVewbi0w(
]j15g;$d&dY1'KEU;i@/-&%`,`f0AYcN-M46snJ0'+wd@jRJQ?uKz4S.GJ^ZQIhfHmVCJ,0,S$E.c(Ly]lmw[Tqe]h@5Lu9j=7>
nuP^ibIZ?+/&'2`:RM_Y;y;8]v*_)j=h'-NQ6NQ1(%D1/f+c6pWHY_Dt$:)uQ8'%8@1JBF^1?m]yh3e&uOTkyS_m9>iuj,T5h)'
Ge`V7Uwaf3evd'K>Xwuf]bD,DM2B+?B>Q(-j*.KzE:iuW^<vmF@^8'ass,KcPH*&2`$=&e(BNu*=GoqRc=uFv>5uES'iq)g;`7l
Y[P>B3y5;7vf^K/?kTOAS0YMWLM?e0Sm16$9kVBS.39*?V1>7mAU:e*IAkUv.YWwx@9o)d6uhMB'r*P&/]kRU1Y9YE3c6jheB%u
I4&$>lh_VIfh.st=UCJ]rF5IfaRnr^e>6sfTR5fd&5??NmB*4:HH`NKEmdAM52XnAU8F6795`SRlF)UQ?xi*'OioQ,<[%WsyHhv
_%O%;(+3lTd)PfV@H.dOhWupj6BdO$2x,BYM[DD@R-=R&Zs$w]h/u[K^ryI0uEGmQGlN(*cd$eA@B,[1dkjmn$shoE8v^7cBM6H
1EpFXv'B+k<op>=h+eaB0]7c$Y1f--vo7$ZPmjt0^=BO1DCznBVI]mW$Avd`2YhxHACgqO%/+>k3MBj&*i`f%.e60Z,3@2,o4AD
e-L9RpyT--mcp@X@_$@rR:X1;e@46S2LiZC*5Y9Eal9?PR89P22WgL`(5EECDi[T1wvV?&.'u,G:)^1Q/7Z.r;X+ku*g%fqs'`G
&%>1NT^')'VonTc.<MUHe9E*&ZHM,8iR=up^_dw@Kjg3?/VeWa5k^nQ;ZV0qbOs)(TE42a*X^31`.fRm:$6VR@6UcR9zl)h)l6V
v*'J36t7AdfepZ2bqm'<.1XUp2)`%^^sS-;091OI<=qf7B5GXoxH)M'E/30Al<fQM/n=B200T3I0Kv57vlA/x`*'JK5oNV3aN>0
M:byXdRLE.y/6P;O$pS[g3S<36yjsH>*0qoX@n(3t+s2+W_ssZ6mhz=]=QWIv20`85WH(D]wuG-sMf*c>Nx?eMT:hWB.A=1<BrE
wgy?7PM=4VPT'0+9wmZQB^*xduU/&QK$@h+^l@KEu@CJL&-y5G,$k+g4kz*Uhbn%J-iEyBvyDy>xqe50A*d]e/LyUL>JGlf;&Ey
'7r<9icJ*f]Ewqx`g9fTf^_Tuv*.n(@]I3rJyc[ygYt4wi_=IJPmuepniy5fpKgbxJqSR)z3q:f[%Sk_:LX[=:v103>HFx..ao@
cV+98o-+0.?U;7D;EOcv6&>l-6Mtu91R<6Rp:N.&-?@1(BRsm*U,UAJFZMpQb^O5,-`ETUK0FxH^-Uto&(Ey`Cvo:hULqGCwQQ5
@e?$BJVHP^+4cB^1$i1L<&c/>M8)qC@c_M/?<+pS5=^_*3)qnoqHSzy]?Z5TU>@`rLIZ>W,dJr]xsS^;Vn6m_r-yPk^c^GsUe%J
mEaR6/;nT:q&fd5rf`PF>VUa6Pe)jjP46q2FOIqjcu(QYZT9YO$K2)t[osfiC_[D%<bg*5TNAK`H:+-R2mkxVH)J:qHBL>Lub7<
>/XmO%@G>L%7f&h$_uG'q:CoE,7iZOCtA74,f(VyW1O6NB<t=EUlWEIi;[[EuCI%FN^mFCZm/gMa2;RX+:nJ9VsZzA;-m@>=6x-
Q]C&/&9kUh?=C42Wjo0-QeUIwk(j5O<TR/,HxdV+a5DweL,Jg2<8lkCMI2lOHsy8ahpeMqX0f30&SjJlOq/WANTF2DO>2rGfZ5&
e&UU_/m=rD;525(n(m4$acTKGC&C8mYlDFQc4ZUhpXhKcx3fSdnU3?Q>R7)f2ZH44TV4^y4_FDcMlSGUPeQ40R]wBV^9YGzvn:r
vgLBiJ)X$VbvIhzWrPTbcLT0U`i'OGoH;V,%1Scp^A7Q/Ywa4Rj]bY?24f*%nClb;3STeM>:YC7rD5<Rju8<JiA/L=n$-Bt:o8l
3hM-yl/bju(ZwZQhkUd;h%hOVVa$dU3s.)dUanZfgU?nX0I=^sf&i>C?Hi8taTvNZPFHxhYepfT-'fAn+rRB;Gf0lztxGy+wtrd
g?-r>ipVU'R9+;9a`o3NG_k9d8P.5+LsMgB,wq@Mxmay<V2q4i[2wOj@'jx7G]0/dx)*2Q]>l3<b3Ut;FsCH*Sl3tNKRIRcgd.Z
:u(]-RSmCRFj]Gm[o-=cPet7l:G8P_QPJ<v0:H<h@bKR*(e30,c-5F)uEDbuKBJ9^'k3n@<?uhnZ._u94HAL:n%'F^W7p0mOxE`
-HF3.Z-Vxrwuc?m9-UZgTKf4>mUf*U>B4k[+H3S5X))XK[?H/VLDbrEhZxEiswY^D1Bp'EcsX&2)x*+:d^q4c,R=jA4`PJMuOnA
dwKk0i->XYa`@m(3yV)lR]w%:9ifUsj0tmQ::YC]Dd88/zmWx>svPpaFAJ,X)L,_AW+rCK_YHi=&Jwzk:/2Aa)Oe%o]+cRM&u&r
L.F?^%<VTiW?buYb$Ju(_fDBEFAI[iQZ%O+%Dss9@<>HrUTkhD?<JuNY8G/2<Y31AY%)=f[B8M<pCuWgUy@p`&;*&L1FYD)XvM9
z_lR*fGvS`]^Pm)DFCPqI=[3`c2xfcDH4o^'P0wX1iA;kjZE^nwyLjA/Dg;u0tg6Bb)CJ=6'k>k]u)1QI+v3dvzF^)u+4+WLFcK
(cI3@S),Tw0y+cWu(q`b'SNX3g%/.3:.mNLk6BZXmmc=F;PajexOIsX2y9mm7R^f`Yn0rIm;=Cqluz&yOAMLi.jagFjn0ny,s<z
pKus)?kq@WM9v>D3<n6SH7/tnmU&s=rv3nIS>(jK`w1*rZ/SBYFf7r.511ej,H)W=[K6a];MnixPN$]SR7HX.DO5rqO3%f3zS.c
'-acH+8mmJv$1-1kC`7vh(AD;%B?W@lG0Libiul'3wnzptqVS%$T2Z9O..<`f46hi+bG9k'2HeTJVM?nf:_'H_EPj.CS9?SOo-W
-mc2QW$.M5J8oJ..jMiKZaZwA+gvE)RpP8dJ_49+Ucv;,+0ug?=&fnddg&GZ$?HpCv5,1,8Jebm*pYK?(w5SVcSt2@`ZGVxybfC
`S]UrRM<+NsL(u(8RoZJd%g8k>*J`Wo3'Pm`J+]W?90M.ReBr0Dk>),Gt5yQd'`h`L&t(SF,i8$`L7N/85[U1pe=1E4xhXfDdgf
2brk%TbR8[5DMT*`,_JB>F(gmzO+9wPXEw[DCfx$)&8T8CVadZi,Lyoo)ZFNGaT1VOG%l*X+Q-,L'+NVS)fB)k8eNwS-qm1r`[&
lh5$2O,4y)+p?`HT/IdX$GVp<`;,zY?q;**$hfZ(sUe?QT(ZjMt0CN'h5(?cRY,$xQEVZytW1;%tVf,a`&Jo'6@.`XpLmS4)D*C
.2UN>K(l/B/b4VlSKq,9eI<[e@H_nQfaHW<j`U%P23vyp_0qU5zf,rHoTKlsq8hVxDmO4Bi=`Q3zru6hA;[hT,[1Z0<suF?jW5r
G]XxY?@TCz?4C;*SK.:ZWpFxsu@]FCt=59jeoaLAVVHx?5jr:[-orpmpCImmWWc>a)keRUl_`NI1K<qsEZyYiOn3[V/;i5+x%96
GzeiX:evMmgK/H_%-9Yi=0$_'FgA(q.G?J?To'evq*Ug<y$9y2':tv,3Xtz&)=PHksA0Nh,f4Br<<6@6DFG+1BqZ(E5%GxMe@?-
IN8hj,F4AX%J/X'9<I+Qtn4U>9gk@C_*xbzkmtu'Wi<<p:^shf*m@xq4Qhzb<ZpxMb:VN<U[j'(k4,<&IJJ<@.^Uv,IX,<.UW/+
cCjl?B<EN^0$;@]o&JqLD4THFq6v-R&2Zv)m1lROSkSNf=^-_p@r-zdCKZY(Tjmo'k/'<f=]-YXfRLmSr7j(^+'V^Jtb<j=;hlm
l]*7PXl[lna;*ZnHw_]NVyr7:q45lKNT]O]8,x)9o;6?.h8k6K;Tdt'eB`8N)4s(ScOxMAsUQc,HArr:>x]4qx?Wn@O35@wxOCf
iW++%TSvocLbVKWF+KV5GdsE>,,5J;e_.vX:qxWukJ[3P=4in=_hW[X=PDKjya0cV^yxb@yt'(Ub>3L9*IfS[]wu'x*k7$=9tha
Y@gc[qd`'ohzO;QwsVID%`8I,gd-X.L2es8RgDERxDnwMbL,FGT_QF4ju(44$rzx==b>uKR4(hrod-Taxcg:89?AhI^9vo7JFPF
mVS9g'UxY/+*QX:iln-`T3tH2oZW+xBbG`2+=^JTy&6,T:YjJ4Ltpb-VwNjjpH[:Fns?6ius[];)];f7.cE=E4O0mfVkeR6hwm]
`kIv]MvPpxH7CU9J<@l%kpy9Q[Q[Zx&jql&h&%g5irhhnB'Y$Ji[cTSD^$T<MEr]5FR.pokV;_-C/6J;*^duVBY(3%$lhlSO]4I
(G_/j@9e-6s6Q8ln3jXu$BkZDBeYFV;%/w7tZx]'@TY:WjH_Ak=zdvZ$fxqnbv>2/J^jT11zu8+=$xL,qDNCWu;dW_h%yEr3H)'
`4Y(=c7kg2:majeFGe.*fW=Tdw3OlUYgAZ?$0MllOO9XO)vHbI=2VwbzlA^2;7).0BVNM[TTLYLWjA0nz@efM(lpgxkF0tLHiZv
/P3Wwd`/'pu(V67fJOU-L._lzGcBgk%d+TZgpa$`1zC%'``VkEZ[IQ1D8oFQ8J7>@vKSF*'.*g'[Kx;Q^w)]lc/Vv=)?v[;44ND
IaVjZ@Sn?Qd;cP)psR*u?^.UZ[Qp[vZ75Ns5TbwFnMlHhqb]xwZ9AB%=(PLC),+93sk@7&SBEs(t`xLF-ne[ux'nC.b@,Ag`Lu[
Bi7qm0IUKH$Nvf-T5FUP0DNOAZC0-eg0YiCEUwH,@4VgwcTb+/yd-w$QF[g-/BM=8nbSCE*ZiT<Z_3(9-[Z-Szu.W9^b+`/_dvw
/G<D3@77V&eGy[j3QC_'`$r]PePQ?%H97YK?4$J+u?7Bm'0G:pSLfV15az$ihdf$Ji9xV_di4x[B:M56a&HP2TsZX^Aa&Fm;466
e<[0nsC[R=[@;Wr4hm06659'QR*hHTItY88@GMX,;D(>^`v;zIF0[+t_8?Mc5(Dn?6ncMOna@'=>?Ap,[]vNz5^6k;-`vcQP3_0
;/75_^/+<S8o:cx;$ue2*&KU(;v';a^IlxK/L3h4H5`CM3vQLwwG/((G$K)R8H4.963`Hzd,kQdqEH`Kv8PiN<^-6$RzICiMKP]
EKh@:stQ^7eLVb@)<m,BI7u&V_$nA2JdroDzmo2XgczOZ>TO%TPh[fP8l'3L*7io;/7(D[?gsrk$$H@<X;BzHPkw$wA5gnw=Rsi
QyB-mjyLUP$D1xLi(/@<P'+p1yi4%s6X:j6GcLfyRr,L$xIM=45SEVn8&lju-`SH]0wa]<([Y-L/DyQI:dm6.7,<)6<>]i72MaC
wH`>F[PMhk$qt.d_s81[9YuwR6Dvwqi@u4%%xsdpZg*4PAU<`X[x(<7NH]hTXe[KdD]VsOJ?]>/hzF6;ckY9m,[AU5Cp'VH@(Al
,2'ia3VWe+wXx8**cf1Lo7-Mie(Q*^A>skf&PLA&4Sy@);I2er0jy<MwL4+>S4m$CNji:lr/]Kvn-Md<6ekJ+6i^OOOoPEe?i8J
ps;(4G[@wEml8fn7cN.pp(ciM]LA@ja<Hv1S900tD)]zt[(%>j9(i`E<=,IH<q:?=e;Kj>MEm2X;?/;WpJHXQx/0r,h-d;;OR;'
B7J;if%]f<;g^TB:LNmT^v&rMf`oWW.R-.&?$wHZ)naq26;)LbY1x.jVXV<;QZSllUpj.Ci9BxE2r`1c?OgVA%60tg7r?o??$J8
[weUS-<FhfQJ3>f:]2leO3YtKPKUtsN)mJj0]txZImxaa'9.k<ja=ovkQ,%mY1.&TLxM7pdAn^J:HLU;8L+[rBasJUuTMKD(%kS
p4oO/[9IR8E_.t[8]zO(G,qIy`332@xR`zLeBd]qVa<QC18Evg=.kPLlD7oSNh;LN?C@mRrpR_czG@2?6l22d$(*_7vvwrTzNU1
rqu8y[SQ24;)b)%^Mg.'ShXI]<y8GWxVbo]>`U0LkAC@BZb=AKGHA)An6gr9[=ah^Flp,O==,=HA;K^`C@v+Gre?WxvX7'9<.O]
DOoO`E:dJs=::n*aD)&<$yaUs$B9l4zFkuEd^L7MmU?3q_?UaRrft*xmDVIbFbF*jzjLo11_NkaK&apx3:n2/DVlQWZQK1VD+U_
NAU<*p5X9G:1s(49mzGSmSeuiWIxW9mgcw;bX?gWRiuSu9FFnP,qom&0_8Qc^GJHnYVkL.p4S(esi,FqWIcog`2h)29r<81K`sd
vo*FPgScgrx/=;oz?ge/ofu`.rZIJEYM:p.T[[R7&c@o3R*_^sRbpDu6WEiT90iB:&2l&TJwur:Y]>Fb%UhR`WWWc_H=PF)Z:_r
0C&Vg[Rk_>;`h9P&epHOVe;6C[f*vErkGv@%va96eOqrkQse0.;aQBq3h1uhWhozY&./l=x?u:eUcWq55>W1sY23B[_;,=j%f[W
XK$R`KLfdesS77l;k0Cm_$A(oFVe@)1_Q1ggt='5hkSGBzp6YqRRCz^0R>T2^*TtzV]*_Ik4P4uD:J6`ftURg2>l7bk%<w_MCT$
0/<`22v)^&]x(^'XkL_oD;6q1tgS36_&VF3EM7%:hoD*E+_>BG0-uhRcEA64w@g%CAc[b6ZZ.e,u:9AN8`SQB)0idwB:_y2v_U]
SDy6t8Z=S`sVG384C47P%[kBN:SCK`M/UG7YD?.[eirQ@J1,d7U+v$KN^bP2<akR8)IU7quGt,4@'__&x*3Qz+D/943fX`$?%8h
srkTiJ3M&cUFnSt:3iO7L?=v3vaL6EV[hc(3gm9Bh*m*e7`mqAK&;MAoJ1L*,KO@cgY/h:6Q:9p?$wKD>R?^z(fj9<*MXx<D1sX
s90<+QInY,94l5i]MfcedP+[TOGVUx^SM+y$9XE`qjsj$Mt+Kli]q.9^jIR=lhtIx/ndBqct931l(j7F74-//ubIh(g,l5L@5aJ
LCWXB9))F[9^ooNkVZ(c=D.5HT9DJvA2h[uVNAxYEt*L,--ZH]y]=k>LS_S>/u6<$hPJoEWxHa:C'cwn%K2h0/,?)g]VD92N'b>
itz:n%prBAJ+($9;,]$%9$8^D2U..1Y&wq[=UPLZ[oA@_QY0;eK(*`?S3bF_WutUY^v>8I(`<(FQ<'[F&wEzGz5A23's>dfi;]q
=pgN[pBi8)rPSW+w(-L/r]&A2?*ng'`RpiEh.gvz'ldEqEX8jtMSh;U^eZZ'JlS`(7Kom0;I+HVQ;9p9Gcjmc5Rn`$hwoT+o%IT
mDkUt=OLYHlz&m__'+r/@J:de]uY^o?j$<As`M]1UiPd11M%,`2o<VXYo'7jitjw8Y(Ze0RU0,@0cSo(BUX7zhanI93qv5N-VQ`
6@K_B2zghz5;S=7r(Mv6.,rqFwsqEtb+aTw4l]*z`?uYA'Jgt(UK>%sL]^7-8Fi8CaLU'ILa=u_o7nN@v$W(B'P:?X@z=Rdo3p0
RL%zgi</eT/9Hr4Ll6AwpJ4q*l:ETnrUe*`JJK=3f8*uc0iFv-Px(fwc@YPUb@,Md)yI&(q%S&iaP7u0)HBfNbq`]hp3B7TrC:+
N:O^]wY+Nle?Ysx5R[b-QUj6m*LVI*;w$AKllnHJ/DSPj7Z6H$404KD0Z_`q*$4wXnD[_*GFZI5*t2(.&:,lB/2awUJF@TBaVfR
tmL+/)x(P=mp$IOgY9AdRe+xa%NGQZ9v'@A%&f4JbIf@xl.qp8B+SU@c$*x)9'W>R`X%8-gNGBECrsU_^RM;uY+6QnPB*Lh7YBO
ExCF;*XO_h9Kq>v,K5Q[?1w:Lm^N.AO(mek1h_akZ[1TAvbuw)Z4v0t8B&Z0hy`cc+%46hlUD$UDH]K[2yWTj?*(-Rug>)MXiMR
>2w'MER%H7S/BgQqcCWR<YZpqKU&I7DmKQF5R6H(0g3<%qJ$P6<aO'[vDi4Yweox/mHO'57sJ-_8=d4cf]nG8=F-N<Zr&.-Y4Yw
41l;Vms?-9^Sc4nAKqe)gio>'pVH.HQXV;o-OdDJLK=g*t]XfvC]FEv?SiRZcnS4]t*/UPe6eS_Ih&:VcsIj<eQ'fKKW.*)8H-F
r)6MLwStqoqB_6Lf:K17vki;'0m``>HeIyXb8<S98ahu27*LKKv_bRguY7rfnW;)[2w8u+o_>m,65C&,FK5CUM3t0?]APYJZ]$]
xy0PpL4,EmPql^Ua->GspvDNF5KtHD2;;E-UYSHdHfyyRf:R%;9Jt1)kE74PH&?@@,wuJ0;w`tChaNUt6?pf`]u.x@R7Knl,YuU
nSnb:'6JBB'(kLQ_6V(yA2NDA8N>5D3KxD[RaC_7;@cH15'QSiLf?bL<fq'dwFAS[w_o'p5UFGl6Hr]qL+lp1@<E?r<_jY-u'wp
G;Sd=])%fB]'MLQBe1m/@`rXdXry)ZHJT8D?Cx4d>S2%8F2v^_,%V^agSL@$A>vK_^5hO?@6Ct1cLhphQA^**C==hw+>i)0EKQ%
%p1V[z91<_$ChlcUW=@Z1(k3,gUn,gP3ad^th5O:htHx8fmxRuP]8YONr$lU.XA%ET-ZV^N1k=_&=jmojEMn^kO[:<K'RoY?/&n
TJe6t`d5I=ZO`&5Kv*p?@dy[CKpx*r&ZVzfwG]Wk[S?v.'GwNEeo45yWmx5P%5lZ(i0<P/>s3)AMXOaR]`PlEbk1;4.G`5?or9N
;r+>q/xZiW?1p;-nCRnrf$S(O@]?zD*CAG>(8m;63=YV,3-0pScEbXW&ToCdQ6k>Q44&wxlg6ettg(9M5)i`eD><i3;'As_N&sY
)yoKX9.G1-Q;sz9>?u67cJlF0-7.=`mt>'90q3-*1s[lU_.WXqr,?ag`jPvDjdJ%B%KXOX(/Y1ucZN*UX,0l5JN6P$A]@WY_'0S
SwgcE61n;TrAer1X;5h0u+K.k7JCvB%vS++'t^,NrqOTR+t,.Ihlhq@1FjC4xonW0ANbH/<]cmmfGuR_7Teuv+6T]8LGff;35v$
iz+4eix3NI<Ui?7ty%M$.EVF$%h1C$X@<P:Z>G[Fg1H5(u[*.')EyF&64ijriW3iD90PLsW9L(p8arDbw[*.M:QUZAl?:66rlJi
)+z4dhm'c$WXE95u=$OHlH-v:bf;up14_OB^rh,E$sOmyaahsv@T73Hp$a3<,``ZFp)CZX+YF$LD6lp+^5CZ<gS^.$d`n=.v1G5
^ciBB/inGK_8_Hj+h;T)viUYn7S)]Mg4)MHE$imZM2D[;IS7X5^e5]=MiZf)nYyN2OH2mIJ+)A14D54e,6-IYZk&;9Da,-n-.?&
N9pYoI`-wt6/=Syz?[c[RRz:bua2@R<]ikv;,lew=.Esc*X*URaz>oBoH*q+7;yvMDgf)wmd58?lDO7yY7z:QX=vLLJ%?wPgO-M
n`zK8uDCX6*j@3S5VLrL[^jr*yVf_[T<i8mq$h^S++XK*`bizBbY/+NtnG)bkn`j4IR[>gX_4ciKy(:Lncz:Ct;ADEI&cV2MWkw
UEFGrbQ9RN&a9$%5j'zpKDu5h.v,>*)5Ib7z&0CfVqJIf`,D&ifA&=LOC$o9M%0oHo`7]AcRFyJFjXI-`pF,-r5P=QXkTgv)87'
so_=6NFM1IFl)8&)<*_9P&(][:E7otul<dqy^y^.-HrcKBsB^rdDnI.,^BM=M(hbnVyhkVko.rGooD^Uvni3OuMwLk=8d:r1kh(
rEQ@L=q6WkDV+>z5OD]Z<E;eV2b6vlDt[6581(m*yhR<@(='8w`LUqxbRkv^*Y;8caf:zds.A)O8;N6aI/I2CmKCZnzs8D7DQ5J
uP9yNVd8b'NIm_?tgQG^nRpq%S:d0M@*Im`ye(TQxKFUm'2KiX`.3f(Z+Qjbj12SHI:Or&:*j<-m$:]xW?X=4W9085aq*QA0wB4
IznNAsECgPxnIK.XlkqQ8bjo^<qU<Ij]uZu$<eaB0u?'>m^<))vq,ikLDADBG)M@<Q2VL5EIH_GO3_wn&x9HQ3$pu,8$:2Uq,`T
VT:,@+oZsvyRsBC6^rMz,/5ikT@[ZsXr_&^sCo36Uub=aJyP&9nQ_zoXp/5OiGbq)/_v-6kd`j<G^(T&Tz3J])U.onJ&P9w[[z`
wF/s)0[Y_mGQzN1mY.;WR)Zv*m&kBC]QVW+^?8P,QS-7813YBqz-7R[fLrD2<-/SGosEDtOPd0LBI:&N8x[x-*an[u^_>H4[x/:
DjN>_xB-S$0A$Xem5j1<PhBezZaJ&QM/nup4zwrmwHdI1etq-.+lBPE67]1R@E3s$q^TxL,YSE*oq_Bo^/hEE$4X7jIGKD9=d7^
z25KwPnb>+)a'67vDno_E%d^*[[>BL0@^R)Y&>o?iJJ.cnsr4xN%0xbc(<5;)RVMK%i8&Kit^Iwg34LbQW1by%u0kR$fD:D5PH.
=1e4Ku*ex^jwFL`Rq?]-BW*vnIH*'Azol*iN]/iAt<-U-_`>OMB@m6uku)zMCyCAw0az4z6I@v^HQNQ2p2I[q-D`y.^?)$&;0n;
J70C9a$wr'LZZ@l5?5eP8A5V:B^jHpFlq@BoKPXbdWQ),1357x4Mf:zjO+ak&fcVV@-6uEnj?Iuh:ZrUQ[lLouqUuJk]pVcd*sS
O+:*H_c6/8-K:M*XS2>*Y-ey*C08J^14hV,Cxhz's4jXk6;6,:y,p?YTyu(Bp2uBy.NA>3C^[dR*K/hZ`tHvbgDJzve._mh4rxc
0mq1@+_y9ia_^dg.pycZo[QqDSf[I9w/;(-q&@)D$Z)8:mL/0oS$u-`=Ck:D/CCU:yd5n?ltG(=wlxgNEPS0Q-:rs&DiVG0B0/U
qz]NlFs/Y0L=d^krF%emeIZzf'7nLQSMhu))`8M+tD[=Nol?%==^mf@.o:Gacc4qY=1_SCM3CakUO67JwJX6(H[)GqG@jGEt'+s
95oO@(gow@c5lk(U;PxCECYqMupNXAWE$9fjbgR8$SW'(aA:=(rpXr%tk;]<oF?LN[+JAj:Dl.fYLwg2y==$+35syJU(zX+^Q`L
bHvT,_Va6Ho^O>j8;e_DgDS.Lg^ZC[a*H.`^kfWRHfQ05i/dD8Gv^8j3>w=gjA)7$Iy,w+xE)&N/zj8x<5U5*P&<h/1i1>ZZP;5
GJ3dfrr:RN>;/aaa-=v=@5Ua9t[:;mdtNnQ`In`Y<Cnr:EWuH)_d[*t5cGaz^o9;&gM3(b>9kX(Q=&zAn=1h/VB@y>fd//g:SJd
B('J/l'^'x=v(m.yM4YR<LpUuVw0-]A1$X4?=I9np0/*)fOt-8DmhUSRlPSyy,fIa;HrrC1bR9d)mCdl3)>cdp)tgHJrWaF07$A
&Q4Lp0toHQ_n>6)we]QI4ZFhA2'z(vxz[i2`6,>2A*Q8d227-Mm)%tJ?LShJz@[+@?T't<x^LA12GF$=m+4^?.s9kuo6sDW';tS
,rTg=.BwvNIEfHw`:=J=>bPTPjGL8ivs$7(x-^c^:^VyrYa/5RUq1]Yul<SmtMw818`;IN`BpfRT2q.-AbVCZYD*%ySEgbajQve
zYZ?njd,aF?pk$d2c)SuLp7YZQLREgSx:dtX1/&)7au,$DpBj>NKqfN'Q3Ix&OSZk+zs.+U52;B%&p3]w[pkC6<REw7*w8/BfB7
>W76c&1e6Ozr1%DkW$-JW*823Tv4cW2qY=&EAY?v1a*4Y*B/mE_:8_zf<P.o_=TT'yald^SnlRTtf$lP)F^4(*wsb/y_oSQ=7UU
@095Jbz32cb0=c&5Cu&$we2qqDmr&_<Ig7V=QHGjzwFV3Ki*^G@;RUd50BB;L05?DWctyx)AGU+5=NVBvN.18,4LrdVyDRJ2yBa
rk(<.mf;HcR6vWw`07D<i.W'q8$c&1eCr==E?u.Er0f$i2RfE*6RbPi02-F7Pft?W507VC+R.,Z7a8$ZSjf83,VH(8XjS7-=T;l
'RQ<.=$h`'krHiIgj`7r`bm['^(RSybH8rvhlwSsGY2<7fP0xaZyKMpK8E=Q^[gT4eYhO/6_.e/Jsdyg:Xhy/)9*xX$4BP>+b)c
aZOWpxBP/iVzZhY]xuxiD$:7S``D6dw)<_LQPD:?PxF*bFLym6HXoN'rEnvB.-labw;as2W>``&mS,Xo.=f4_b:C/3X='mGMzfw
fMv^lSgq0KL[JR(7JkjQ_A:tSw@l4Fo?5PtT.T*RM60lGSMp2r5'>.Oi]f^*E@v`z'x?@sb<hYp;on,<KzW1RUVt0qgU1CY]Tje
Z?F7Wo$C[HYj/;Y&a7-G'SMEl8fSG+jBH1O^[*(.W']rKvr*Ia<W9Uy+<10+6b6Mh&M0VVw&J/4N<&?lV$M7Jt=m6u8`GEBZwBa
lawT=7MnPvrwAy7G_&26mbU>u0H.kKIri$N:OeW)Ne6G$Cw<mS0%G?wLJgD()</I%]VFN6QXr`FgPcRJZNm9sx2oAk3]1tI<iqn
xZs95Mbm]<OJZ:qx3m'3[7FWbC9wLNN0@gKp^+9N'yp7@=eQyUBF(?1q0gHttS&/Xw6VVyg=EUQD36gJ?m@8=gvQAbo3n15e4.-
O3*`8mgq@b*X1aUWX6LJj`/E[AA1+n(%Z3o10w4B0`Q>nLp,r$5mjOV0ftld3NfmPpVLA(W,W4cLAi:0*%zhbeWPdAV=c=pq1:=
:y/nXxOuajCGvs1mZr1sWa@cg>Si&3ymCb=)?k%h^/wzfFgv9%aC8)Dr=t,_MW`<8$'YJeKkWBgNfdk1^V;vJyIBg<PbciaF0F$
:ChqygvsM%(QB2Ficq_ceGJEtAS`Szo_,)%V?D<@u,i/o30:wJ1irN%i`?Yqt%V+XY*yE&vbHw-XElbJXk2@(3;48+(JQW`r8Uf
f?b,K%8'2bC;c,`Q*UO0Qv&M$Rh0jYeI[?7;8S2]atlP3OoC/FHrHcc@)s'l(7bZK88U4Y$WSVe)j;-V;$shM$HIGU4^^q&^<l1
fM_jIBt.&:Gg8$F+Y<peE0z^_u'q':Da'v=uw2I0-n3$BB=_RhnYV[`o%=<;ghj6.fj$kcZIoo+/d^)7VTdAn]H&T:m,e]j%tE4
?/r'-EBeVq-Un,3_G0a`k7@'5N=_k-7RNv^bP*tt^Jln:YRiENjHaMs+VwK:n>tCC'G,9XC,7$PZHinL71ir`U,;VUE,6Yf$K2e
^3YEO<]N`<ZkUWb.XN^0%xJ:9Qq&,$0<&qsn/Lz^Y>^5&MtYiLlU3q:,RnN[,rDfq9G6L[^6:7,IuBvuDMi`/c9f1xEdori&H/G
K/XEf<i4_`2%XcPDU'[c73RN*.`)4A6eLa5_$Mo/;,$n`0T`?/U;S?lbDr5zI9+-fgqn'4fcB_2@849Xvt'wq3(kvX3D2hG@y/h
2z+APGAG?KaO$IbW>o8Y`$Tg&*k--E4T=S3Vs]Rk1niRJk?qEYA?jM`g2POf%tW;paNIcHMjzZ9/&:MI?$$r:n+J(>6Hls*`0iU
p&/IJH(Io5'N<n5f.AbYc7syCh+1k5<C`C=vo+SXP?YXsD,GwYff?+wg1DoSI`_L3Q,S[=gtPdAvD5g?E?m6vC2ek$FpJ]WN;/6
A'<M(->B4i<S2@96u8hIAjNTP:CjA.wRS`2I'zV2+;]elaJY^[r)%ICE/7MkE1XeERsA:jZXyeASZjv3yLbDY5vms*W48CIjQZy
B^H+S@%u0j5xk$[ml@K3Ms7;uwj_lX<6vjGQW:RfCVA8<dAVvN^n>17dFw0rl@*-Bsu>?kDE?`zV>qHVGubT^=qFa0/bjgD&@81
m.bot)0,((Y(kPm$M?2Oz=qY8xoc6<&APKup/-jHh@;ii_S[z(m&7U(s8J>,N?h3tmGj+<Y:(]`jel^]7,CgZA@vmmn^7'BCBE>
PKE@;Rk0)+M>Y@Q'QGcLPxE3.S+qhC6buIfXZV7]V[.Y75Ez/fg?/bu16/*^hJ.,/`z)9]*L$lK.[1B&20btGX*+[`ls7*Z`J^;
%`xw[;EAGL[n>,^;1<_<wJSmLj8;jGPn-QdQC4?z-yqW<'OoLF4-(t`<)TxGug=9Ys^P?RW$f`j/Oi1fNKjeoyIwx&@%6rKbL+R
o2][]d,52nkV+jxRua.)sUAl^,W8c4wUj7]0>dk8HXOI2V)?SO[-rw$G4osi<FeMUtiOMS3zYn=_wLD$GFXO&2yD3k[6u<L=WNk
33=86m8:qR?BqFnX_`X-DW:=9gP^ZG'31A(<BWT//eG<jmKHcn'c(SJ92rUhmGd_R6WP<('l>+75c)Zl&X&QgiJF[&2Qc9:Ox:0
-OBN;taQMDiR^y:DQ/L7odfJdQ63;wYC?6H3b^L8k]B_@TG4rrwJ?E`t@QvVUP'P`bp4X)(Y>Q,KQ*Ub6+Qaj';x6LUS7NlA6kA
aa^`PUN+0+9OG/WYo=XX'2zKF.wK2;.y>c<A`$BKSD[>4KRXS^]ZHMv]q+P0ZHAcg'<c'R-D-A6]G?i@=r]H%>AU&l['gd2G;5c
`L*<X_,*0)Oa(v9jlXnQ<3kjN>n*.b,$Q;.>o=(Wu>D.(hC=15kymn<FyU61XgqEsm=3%k(y+Rt7sUCO$>]JdGhb4ahFHJ:cJ>Q
XBVbDteEPN2Y%3NYxAO7fFFDmv^tsT?aNVO*/<&e>Z&<zuQq'^(6fg'z=l3HU=OlPs%g'6lU[=_tn&Y*2iNsxf`n1z@rG%R]8*E
x9,&ARcS?a`1YGMLTemCGlM'?<hTXAjN*p/h?@zf_Q[r8S.EMUQBA2.m[AzjJVcX;(7?2BX6:2.+_Sz)%V9Ur=Ba%)nx]<,l6Ai
B1r0FN?H1vUq+ycdJ(M^yD=caIit1K@;NUUQex]AbkH/xAwh-TT9mhhuE`,Q*8p0vF&JNUCa;HcR4iQDhcsayECfBx];T8*^ZWW
:JP(_._egBI[<Nz)@OUH%msZ1vDjuUF,A__yLBcdgM@&kBs&F'(bK.E5;(.Z+rq;rM]8w@U9Or:FMh'y8fEqhhnZ-'BZ&eOz?o_
]y,IP6YWw*1=tM>/Bv[J/+wM8j(BWmjyTE2Y^G(.BS]4-/Sw:xZ2``gw>b0dBD=']kFzK^ye&BmWy<X0Q3-*b/7m5pDT`QGrT]7
X9'zcIZ_j(,%kZm5,1tc$.FE7l[ahPM1)W8%L=+^,z2X&]-?i5v,gp05ZmHktF>Ozw*fsJBXQO'h5Ize'E's0/5[k5Cp.iTv=b2
<p`;H5_)P8.?8tHU&N.zfz.t`=w8=hs:'pIXBbKtw]Xi,saz(;;y0rs%A?5Lb`P_0pes>c8sK>u(5e@d:SZPB(5Z0ermKhR`-ar
7.uWTY[%3(a?L($cao[EM0n5DX,Ve<<h]gR88rkSC704PPN7-,;e`)1aL:jXesjd7RkqcT?GW29L2o<9F<>p3bPd:=:JV;$Caq+
O'prC8<xPY8Xk.50V]lu)&X`W+2k0@BJ]lO=c&%<Km^IrY=a@Ct-Wo4u]U^0bAq79wtpev&yrwKJJb';sg[$;GYx9UytaKmI7V,
9^9o'gClPVPpE(U(**,JiYk@)JyS5+6uP'SG[ne>.8Pqy4O0vx0NywEx4[]wRE5nOcycMju+:U>0bBpeVU5.k/LOx2my^`)g]V@
or%g;+:)hLqQ*v%:XT6sv;RR>smI'UL>ePG1.U2gwr2`m[$[Gw%rRF1RvnK_a8Y3n)VZDu%)^:Q@EMnXY-H'@54hM?qpN]OvSY3
piq6u-CJDf]bBH4vaE4pZLFR9R2'W/RcA?izgGhI_'n)2CxnKr)h<k_CTcJmKr_?VjOOwpK6b:*8(p-awea]Y]20,,)Ngko_vgG
nxBP[M>RF,iu@?'bYCdVuSa`U0ykRCWcPRrs+&CpV_TcbZvR*u-^0:/iEmb>e1N/0R9rf@HrV`wWiTPzK_NX)m]gucT,*%)u3`O
ja7>'$o)=GUi`&m'x:u*nT>-F/db5bF3f7yV>KFCeMXRazgQRjbv/i=BDWW@gofDm^uz;)ZS8*US/Rxg'1P_ZkQuZ@)rs[O%MQI
x'>[TH:A[ncn3'*hw]H&cPO^p,k%zA-V.pMNoX7N-k@i/WOvmgk'$89@Y%?_K]zMg6V<X,a>RHtAOGq'7?Tv?BKudcNzUbWzgs)
(Ko.:t&eE4%/`-DPwK(w).V,osl7bufvAu-HxI_36lS,^gMP'8KrTK[Mx=WWo2Nt5p/(4>QrxA'z0:i;Eh?5D?*KG^:wAG:;<sX
]n2?;s8AVHX(8GLYs>3;EpUU.[JatZ2:kQY[W5qUUa0$Qr1Z8^`wkfi/Y5-`16'*V+e[IwVmM*ZZXH^hGJh=robg'U()?,`<i'.
*_w(=qFaZ?QUFKAvGTRtOcVAf+yDw2aU0yaXTp]?&DR7S.5yF^6&L3*KA[1vmXhK5QDbXg4j>0,,H;Y6+TBigMVhJ.gnA.xlS%G
TsIBm%$bq`[MbM4nkh-ZdD*hdqy:sNB@&(])fvnKTp^s-0L]%CkVF6K5CT%?y)s2ANdp]=qC:EpxGR[hZQ-P)fFoeDbz.N(<_1z
VRIBOP$t+Yev$V@Qe%]sC>SgY&2N>Fu^cu.I<G?wiboe3ZwUp4v%qb/Z-'tlIFh?b24ZY``E+((hoP0jug:QEF@=+y3uQmcp0KE
[qtSbI'lA,kMPCF$Kj9XQkfeJ:<XtC+,'G)Q`Y8?mlN:dvb)+.Pa6<)'.EmS5>Ah_SdS%X9oHY>)<d7)+`Pvv*xwVk7IX=C1ttu
rimB'yI2R:qj]fxu<NoQedQKUu[7Md`%Kr@lP8&9]P^J2wMm/3^D%ZIR`CY'UVBmb&$p4On=wHJ9hvJnK'.sHkr/v-'@vc2uZAm
%E*4$B6<tkxY(0CBq,BIRm,%KTHj-X%l(S,-jWPoMVNS'xs:.0=f.:>c>c'^a7=jvyG=?Fe6pcvAQ9F$vWaHv&bs0dNj7cD(8B+
jUp_<n-<;A91j,&XFjH?vcIf&inS7WLeVwqABSb86/):y<:4>%TN/:$X5DNiJI>0.HGCliVPFp_S/Y&<My-*l;>C,Yfz4khMVc?
3CRX)WzK>JlebYl`ITw=PU<.MB-hlOCoZvItjqQ>i8ci4f62TA'W81JWB@Kijyed&itWtq_8g,Sn^XE2Q_3nD9j-eKRxr@zc8=5
XPoN%IiU0iNFlvY02l<TvSL5D]NkpA4P[N?Mih,egY+3_He.'*f%3N*Rn=Xu'hb8->xOlxPtlANb:IjmN[`8Yx[7rAo3'jAaZsG
g<ogjWoKk'P>lXhs+&tY^hv6LXjiv@/lwPE$GC0t5JmRXRzp2jIpWHb=YPy@95gs>TERHn0M8?BWSHfg3MRs[N_UO07n34X:)+b
3,.y9<Gtqfo_*bNt:u]fR(OIq*r1T)q*^2B7y1/J/FwAS:;EYa[kn-jL,Yn2[D0>)Thy>=vC2]&r*D&0<;x],ED1FGS'P`qx[?I
7'E2L(:[5R@HYS&4v9-RWcN8lJ)TMsGmGdv(;9*WcH;UD?t>v9)(Bt?F.*%p'qDqRrrb^DUs:s&_P9PCA$_v/09=Qn/$P`-xJSE
QJ.+unz<5hm?;gW=e?$hx$`xTo(>A)E]pV)U=<gncWvDc3_T=pw;;Og*He[dx3'PW[]&ZHv0eIb.1oXHCM%$B0/rC5:@7T<t%gQ
@,;NunPI(__mCHUZb-))R*E9$^f2>,Phg6QS>qd(`[k7n=G8Hk=N,qiz)*uXiLq0nYZZ>BAwT.zC&@gULfRbG_)%4nvz)e`sdFQ
C95-q[Krtt]P2-Q&%i&BHtYl$:5.P87$sc$M(ZZJbMcfT&zY:W<kZ->33eIGU6D.;,yD0rW_M.^3<H&AU8?mB>oB<WX*sTn;&'*
SjFlu0,.$%V(s&pJD*C0s,oZlev8:8zK:8kVq$A22[3GTb858i@%]CT$_0x?k@*S(om[Zj[$hVYJh8:]HF]l9?ZR*rimJ76d'FZ
l>F,l+msU,GIA,-9e$1pjWXfjl=,8)28O06]9*Z5P%Q(>[BZCwtZ,,$kam]QxY;y<4>Vzykzx6]O$NoyQG;,[E@B*MK@qJnsvMD
u:z8?L&*iaCBvX]gRTN=9uG<jig;X03IyGCp@;eNneR?;YqhEE:$9F%vfUn-xv+d1;Z_';gMzy^b)hxf7iXSdjmA:+lzd_bQWAu
0'Mkm%lUm7db8B:*Tyl:APvZ(GHZfKMaTv<F(;/(z@G9N?djq-nq3,27o:LY_,$V1lbcd]mU+E/0=C9/=fR?BQaphGAPg'_9S/a
TeE<i>*nNDP%zPyl*bVuAL85w(*.WG<c4FiN'[.97]W&v`^X?dK/nMVTMpj:s1u>m24`a2+o4E,ey(A5)nqkJUE$@>&qn$Its,q
%%%Z7*4>P_19q^>10Ni/`h9]axGIp>]yHp,eFDvjW'>LKqWy_u9p6e19qdR:]]**v.&TKqvBlDJXt;+P-+(;%W8Qqw$LaD?mF6l
B[?E/7V[.f7-vdvAmpV46+N&_7Lh,2o8>VR,dtJ-IJaUL_YF1Yk0sAX^CcD>Q3xv])>siDbcdwy=*HhPC>t;zf^BWNe:JJRQ.FX
)HG=u&2z^N*8UC^UB>];f(Ey,*j02`sBj5SfH0Q2&[;=%dDit8*2z7z_pKGJbd*v,Nd=WA(6G(PqbzEnptlLzVh8YKuOu3Ar_<:
JvN5]AXUxa=4H]@Pue$lbGOHTJIN*v34`TDL10.Y[PsyvU1@As;v;f(^>nh_h<=T@;Dz+*14,klJk?&TQQ<cU@RiTZ6N'?f>C9l
'Q%'=^h>e,c<q,9*zU(n9/s`3q'T1&jb>oANsL?&GHw=HN>o+6iGNvi0sq%+]Lk]cS<uD=$7TV[A+d=0LQ3Eca0$]oBx0`<>huj
r`<Zq;g]ve@7>Q1gc*v&CjM<e339V`tdLov;Oj6B6Frt$/>fmnO/9Et9,TScD7vtgVleRQiS[?qc1^&B1NovXsf^hMWtLgEi;;$
Cd-4=Dzc^5e;_RS2?[,&uFR3^6U4Wwv:b6Bqd,/k]kS[L+nghgD0Q:F,z5mWORn6yxx$c0x%$wTA?lE/s[^T[r]W7ry03$n`/Tr
siZ2Jn9vswx[]:]`E>M6DHbNM;d&Vz0I-CWEcBMo2(s,,oXsC<5OHY.wHXS/0ZTGwra9$wxd[yTy8M7'wjA-/_Wi=;d%'JQJt*i
%a`VLJwJ@x6%<Tyb?4X.(?BHpA*^SoHA'q&)(Z_%b6zCLgR&YbYDBybAKyNWiU3tBk92>aLGnrknyv-;@(X1@AlWqb/?Ou[D?D:
tWT2@en_vBw2V.wLM>(XFYk%$;I$tI6<WqWX_%A1?JcjXz/E_d`FKYz-BcnI)o07k;?WF[hpV,b5Kh$x=6Uz@'sl=:%uER)x7>;
kA:w;LD9.Ns4EIborDWc>/n4tIP6GGPqK8o5s7+&:379NqFkv@O91S*.O$QbdbuxMyRD_>t,yC9O*ljm0'%yf&8>kpSvmRRd4n%
f?rS<h)Bd(FpJDTnL_1tPlD^p2'*IY-Y9%:PV'=zN`W/6sppp'.Gc:5a5qvhzwe$Zg8UkcA[EVf(GtRAfgNisy6GyoHPgYkB,2q
([?YUr'XS$]6g^tFI$-fHKW^-zos/3CXbO?3KmGcc-voez7dP=-_S.'qPSwxIs.J,f6i@ruGh9.wD1G8,hSlj3z]cc4kP&ebW<'
]ksT`ns,:5/mmYWvzmf[JTsQpCDqs?F*71W=QX6K2TacEI*Ibh9dACrMtB'wXQGtU(qnA9wHAxIx[5U=,25-%qd/bX>LtZDf4>.
g7d?Aq&4g>*bPtNvyq_K,drL/c1ZV[>4s>0YBY>t5)gYaV7*[yP.8WU'$Z,Nkyj:FG:e59]n6C?.Z`/(iV+mrM0hdcdf2pE>JXS
XGj)X.rX@>Gi@l_?2m.Oq'/EE^.._cB37N$@uX[OTCCfD8mY/2KD.*@YNIuj7%Pr)dPs]l:hFu:)l0Q_qYk=m?s_U2I-dt-0CuB
3+<ewD>Sc>7llC`(4Y:pI<Z$:/2Str+sovK(j.mwriPPTR2-_ik0SndM(i>,$(dCWy/]L1sA]CxC>p+-6E2i7QuaYUkMsp)fTJo
'BHy33-4UXLGLV$'BfKbmC_b$53+c?;Bd`U.b@9R=ANd%4kK&[d=C,]53cO[9'eh+Ud$t<WeSl>wnt]zTKbOp6WQ`?fvV@)8TU:
OJ*<hhdcG*`p^w&-q*zI8RjN=1O^0T,FbT>^Oj0gCD/3/tqhiql-J-g[;9jw*dtuPPP9z4r6QQh=Q<$lvifCiU/xAMUos0/nDFG
OrLKSb1_(^C1<ruuuqbRz2zOo;imKC8[3qq?7'l1;Mds3OS2*kh*8a-PmNSe'hLd+>JaVs*p+*EMg$ygRnqNeN+`lBx4ZrA.mqn
tN6W5y3$Lh+RqK]RLR6_%<kP9b_qYgb6p'_U=FM]*Nfavg4`5=SsW;6<5]k/x&/Am/QK7?0+jh4=IDZ@[Ee9SAT=l,/4<Ms$WyK
+/]yGqC'5)g-.m%2?5:QqaL7^5wp@Z7arffv]B`]]l4(DpRdN&<4/9j><KFJO7X4Be)>CJoAo[WVLS>.i[C+LG;s,k]]';1ewAn
iz9CAB<'VBh0A;E6m`=Cm8=QjC]dvPrK9T2F3O&/yrgx$(v'3/wo),v&*LIDO'fO+y-'V2bb/@1VVKM,1<Hy^o[h^+iTsw8gJ3;
8Nua'M=g$5Bv/lH;`=Yt%<JYh@D;Yx]j_R(?1556x58St6K;q:uF$Yqmby`R2Z+NPJ5$x[C^ZIadpC^V8l'nGv%_zqE(2=>%uX`
ly^BDw2fhU0P[]fD`+$4<,4Q50I&8rz<MQ,+Yln7DuyVb%p:FzR4MOMSFnu/N]UF^3MTDLW&D=.0kRmg/Yi<]M]f]JSrd]wjhyO
H/0jUcvhT[lue/@?B<t8K(ke2*T%Cwodckd'^xI&El^qDoll5:smQsrc>i$Y;_fi`,yTU$)ccA_SKNEYt(<t5eA`+6tP+jTj6,%
WEaF>+0?*OCoZL]q-[l,:t)9T6&RTntcqe=LLnYGT;>%DVB1ef]u%+$Q`DfOEcWx-Zj2Frg-^Ye$)u(4zHJ9j]<2B;o[^`pPP5*
Ng_HMTs&U&-r@%FY)j<JhX[3hIw)Ce+MsNawvBpQmMZFV:]NaHOil<k^5fUb7RZne5j'X?zVOmcE(dg;glk4DHLg/*ib-c:vZ%2
W-.?2nptqV32LKGWUzCbDNm5G_m_?H(nW,GX(O-TN50(p-Nc^Aj[58fG]%IZqq7y'%0U`0I0s`Yyhd>0?-wwTMVHJ%Y.m2@:4/g
[y,D0u`5g;[9wQ74MUr=Ue<Xerq<^cx0fYsw>ZG[kR4$Y%]*O'>UZh,ug'I8eTTG*+wY[?G21`[OVD^S3WPSdq`;4?WjV$3z)MD
SLB^=sn`,n;MrCxMiZE=>Kq?`3`nPnPw[(kpjH6D[sS7JgfQ,1JbL]UyC:AksyZN/V=6QsBQw;xWkPmk-0tsy_vpsYJC9DWtzEa
t$Y'fP30C>2/b=_;tDKGSosk/TCR9=H@-44:F.Q%+BxJV*qpCJX'E'HpU*0wwGz4_d4L96y;<A=z7$*iPkyruB;=H8VTw$3G&hx
uF?pokfAdcGyU2^e+gtBT*I6;sEXIFIuaTTBCI/,PVx?=t8y=&GqWg_%%Z-bi0)Yt[oaswuyT;Qe,flW>nMWPwW>q?/H2KK8,67
j2][FQsp2':'ea-H$,XC7NQIn.$]utIM=9maMQj-8b30>f2r(Mj&s?HOrb_&Q]SpQ5`^XA=Ogn*oPvInD'C1MmodR<qFiqrb$jR
Y+AFA4j_HOnAqmvm6I].H?Js9QQruuutAdswQ_iS.MrZdn3drbh&d5JUPl4)ft%uk3t;E1YBy:6Qa,yiEA`Zm>r_Jiq&Xno4upm
3HG'Sr=])<e1.a(CT*9tTDZrh)>sqaakH8oMXo$hq[m&,S$fON[rAMYboZewd%5ej:r%YJl27XwNHBQestrXl[ij:Z(MI.dMMLC
]O.g:eSUaP,D.EMv]tByf^QQ8`KqH>HZ3(ApO.]pF_hc6tQ84ls)Rl$+pgXQ/oVsFIW&-mCq6JpLiGGd8pz_(lZjai>A/de(zc3
M,IJ%0tz9E8KK).5B,]jHiF.p@*ou?*dh.Q$)ZBVkiMvhxT<@hYJC`avt9G/,3PXz0O<6t/*Z6b'5'F$lg+q,i:_V=-`']lfT-g
/x+wCvZ%iY;'ht]kj;/]kj20WN1?pb:@kf+HM4IP/]'UcWEGYEA(_;2;Uk+Bx;zAaybpSFp*rA+czg9:dCM++=j7a*Y[K&9`kt/
=1_0J1;)-^OiTZI*qaGqN8.6<:p]tGiN0FYAJF5y>TS%YB?z_OHa(0_>37+k`dmgfaHjq$uT,RYz4Nw'0+xP$&d)D@z-0HETrhF
sSsR2quMe8D(K7lkIs'NyySzv`+AD8l^hA:%z[$Qkh/8EEdVW(M*ej-:iLB7A1g&I(*H)`X,TZDz.Knu[a49mTd&qQK2G&6667<
fnsgxp_`rFf_Q6Qf;efp?ATU5JyUq49b0+f6<6S82=c)s,?z?w/<qmMM>orCR)m)NjPUQteqH9*$TDaTHSl.d^9gaGg<=b+$,iC
>Mc4JY&BV+G$01q0hyn(<&o`P.q.Usp+tpyg`G%n>=d.R4I&%o.2T-V_wzEGgu1Q5ma>@jb'uR9HzR^5TX4*pnZm4l]^27Bcf/d
i+u,Z&eC4rdoj^[wnk>2(O,z5e^+,o7z6lFX:M0Gcvn,$qT38>i_IQc*=B(eAo^8v1oG,r:7Y1Wj`6oQaPSc5W_Kahw2g)XF?(D
:nd']ia/hKGTJh3`TL;--TU8Z&>*jw'9^5k_+?[AXyv@':6mnBw2f_deN_M.1j74>ujN8n^v&f/L5kjW][hz8PCp<K^P.U'(J$b
%dTV?i@)6Y`e&hBHiaan2Jc%is`a/7ElX@=@>3@D5w.9TTS$(.Nhq^,,gb<+nFfO<?r'wrh1r9AiT`u]dc7,^Cbu&O3jb2Cn*YS
OAN%p`_nzkdEn92ZSE/ttt:Mmw:PX[Sex=Gt/<$T6z$BR'&8'V7/@TPg<FI?>ETWUO`g;oW<gi</ULDt?[X:p1zNi[_h&:(fV0I
<JD73H?q/Z>I2U=D`cRK3/liJF@C7(Dzp2)U.rQ<x_RG:6_[7hHBixj>0mPanlrwO+7Xf%@FINEp>^ARmyz9%BfxYW]?-4R11Hq
SrU`D`k[K@Pp:Q`-s^?u/5@a^mtbtqNBt^:(jGV3%FT&vk76PhT4i'e9td;Na8'BREYTs5*X6YoS'9'DsU$+%L:9)ggL?u79J/e
xupZyO[B_8_u-kko_2%ZkdFi^8q%,,G^hxVV@+zh.9YR*?Zpt?mUzrI>;?M=blx_v;WI^t;RZfW]i.etJ`;K%^$sU;4aF-@8xS4
_L/(Wn^91&T/j)XC0?hK,3KZV)M85%3.G1bT)mDHR1^xGBy(F47FR.l6[qe`_Sze.iiV9_oy/23;b70'bQ-];CCg5Yk8,mAZLNt
Q?V]4K4Ves[[`TJw)4UccX]Th?k4H_B&):;rP65O26hD)KceM>Wd,A$e-fXz_k?d)Cb[H[xC3h9T8%/1+6+Z8+zJNF31Eq;]x]6
$+*jp+Z9PtS4_+zO*etaM(i>J6AmYO^RKtBpX0?1n@ty:.XMVlP5FDH32ov0Ls%;zGKNFp8D*QArSqEj%z]HQEbB/f6T+m-FvYO
XLPe%a-h7=AIVm/G<LA-:we=;k/s^*<`a.cOUJXx<Mywk@u4iG(ok/i%S*oE=V.>n+twcaCZ*<cT?TVr$>PDT:HidvL]go,I(4x
,U_u+zEm';dfAsri`d3$SE=Qt0fA`yiI`](.Yb`HEm7S<Ha2=tRzuxnlnX((dg6+>-;rglL5l<;*A&$Vukf/yKg0LO9AFP/y:X7
BXb<CUXXQryy8]<xuXWTK3F(=f@DJkY[Gabb>rWXp9?'JFn8n)L=<a+Im`,EGr(IvYLvyWY+2(rRqdNHegH2largr1`$+S3WnPb
uY2W1T$L''f/3qw1nB0%hu?7Mv*xc8l7nS'JSL9`JA1Z@$,uN.G3DCU7?v;0:x]apWkSFNlz&h?>Vgk[e<7$Z=W_c@<kK0Qer]y
TM4&^q,`Q(d*(R[u1X?7.QueZCsw7EdtzMy4%>JmX=bR5'Yx&)@ww+t(hN@ertWF-]tBlQM3pckg/DW`$Y)oe5jO`:qD8xZ?JG>
8z^Omjg^=z*9fj15L$::Ttzi?[x?lP>0m2h*uOQY$F0h&v3pP,)o9CO/@J9P@=x>6Sg%-qfhsCsmhYBwqekSuF(M9zB'?F&ncN1
IWggTdmi*=Ixi^/6K-3No*_$F8SMAMOX8*0lKe8MsM2's>bjW(HO]L<SW,1P]T)/mU,e<<XEh)Rc('Pmfnhg=.BHCOX8?Tgk5L7
NLi^zhN076=p]aQgo3-SXmk-%.e77QaZF,E,k$/US_1Q;:Fb.l5LPgq'le7htDuka3/U+oJj<.3(k>sA^UvF7&8HxiyhBdx=.;<
%Bj@.`9`B:[<n`vS&PNS:9Pz_FO]9@=`R%L<`3U=NfrBT/Fh<E=^G]P7GfK0tK[E`I,yW;A5atQ3Iv+Ny.$wUqMjU%H1X.n(4ZV
Mot-(XVl4J1V7lZN/DaCb@NGFQ_/YaMiA[=^=M(<VjW$+-;HrM]<e1t^LhIqQnoZ.]m0xodm>zIBEX,nZINa)2l5G$*bUG$i0K.
/Cx%VFhS^o8.*Kg[@HVJ'+?%T99xpn&u[BoNVn:7+FTWoD+^H4jfg:Ok+*)^I-+RVGFllYo%Q`(2WoXZa0k-e8Wz@v$xGf?[B/A
,NCbSXPp6]o;0t0@XoU.@.[slp9rB&iy%$Q+W4ax(A&Ct4OxYq$R`X._jfI?KGFIuSX;PWT?muh]xgE;qw(zPI%YUvw(w7BD/1W
fRm[X%Q1+r8SpK>Gb@Zmk.B=*?r:)$i5b??)`OvL'NV$KZXiN[,'0FqQkSCo>C,,[qrQhcsprm%NUZN6Iw(KR%OQ&@fo9vhtxlX
Sd9V=$>)<+mE)U5FYaK'N>ZIufl;e<Oe0/<tg&Jf7;DAVWv)4<TEk><)txGnU%4e432W9y4k=ml)fW'PTlm5;=RNAeXvMxe&h=F
]%ygR30g*phr%uuA&$9HlF_wX>2s>i@^WO6PZJs.A;'2TGCTJrTS65'efn:E(`)Um_%mrgkdxDP,^*=gml5.MZag$QX?3KtzH*'
Y>IrY2FfK2]bR*GRomHY<IW[uQI*kU`v:GfYg+Y?qUX=8*3?w4y.5eZh1t%diK@Y.rdKtivmr<:F;y,_9qklD_?`UO%I,mPun^i
Dm5_F))9WIbK[K=cXfB2-X1N(`ePlA?94S0F-,)97MkMy??,l_v*APG+>/K(CUGa5IAJ2DY8H2R2$*2JT$b&dxTLuVYNyUKlv).
c77>vSAwk+lmuIY4/z3LR6SxDB&TG&:T[K9Cx*_sG0v8K66V<mfJ^0MQDmcJq<bc-D/z+_sLz*(uL'8d_k4p2iIKL56uFWo$s5a
XITZ'r-Qx729Sz-jV*g-_59ky=.&A(u1=swz1j.b-EFvo&lmaVx5(X<,:pw(qAI.AYGsje9[G[>-9]-b&3u*HkVFEyhU<t6`H9R
^6h[G_z:RsfO=N-`,j)bc1a6AFpCsmFy93gnrh8=Nx$9Dqd$qz47o_[f&[h_TNFNhQU2jqK9VO@''aEx?eA8'A0]:QcIwV+bh8x
,;47G,_c?`8QpaCxX966G;2UGP7K?%FuV8>VW>YeF*p7T[J&T,+e4Lkfso+74p4pp*)DJ%Qq$D-wS=soS6Sdf/wYZBSUJx.HD_X
GSm`UOLFyY[Rj%rFwt&KT,C+vVVZ@Xnh)G+Xnu1GqW8QM2Lunhd0dWG/</U2MU+SPJ^rWV,H&Hbw@xIpx0p+:xB)HhNI%5l[xEo
?u&z7Y9:B$s$xL,4zMx$ST)d.KM6Vi8%^hT)0vSO*ngiv6r-y<NJfQodET'+R40aUFEMp$Y*O-`a5a-kO<dYD7kqY.ubk-e1]+d
$.e(9*%3zLXy'a&1Q$4leK26c8YE&U`5,$w-rG$c]r.]rqyk,Pxb-IQC=m$q,'ok.6:gl+/F7)+8QklPZvVV9;D`An5XQ-RXIP6
=C_+a.OmA]oWPcap;ve`F&$.j5^bMQ&H>wrTacnTukE41R=uu;>Z5HPPaV+4N:41I<qvNQNBgKSD=67fDXsd'<MgiJ9%'Xuy8=s
0NbTId>CrFMRQ&gy$%1lg;Kj]oOS[7Q7l-O-Q)H8WPcJ*,$p&n$g4`6:B,m$o6.z?qJ=D7q[j$bFcF]WmqGWeff,>iu*aj.r>;&
/8*c]W(NWd9[/bOC/-0VD$5M4D`hD0$Tx3aM8`%]%psr8hFY_AKIyP(.i)6:b?iQIi[p3C7WuuuHWQiPIUTfK^'MZVCetP5v3f1
tg4dGqbrDtNK%&cNCd%T[^S:F=v':t/.TK,;?dL?]6ArT;du-&%VZV157K$qQL'Ji6VTXH*f<P(7DBvGM;Oi*MM]=^AL1Ss(lfw
G?80NA<pnEvcgp6e3-Hx]Jf_7>(]]h[a^qQH*[Q/:rPvWm:CjgIB?&:)Gcz8_5945O*]E>iF>PZr+6M.7q&svDL*Y0yq/nPgCEx
20XO'OFV<h3uqmhJk:%=H)?1%F)O_>Bh9Iss7`d@Yl)aEa$9rccbL]&Wum**ZhariNl_8_QK//.]HX3LSBlhqyy>O,,+%P@uZa^
hD^3zTvsqn/5AaVp?k*@fd@pgVNtQzdOC't)`cMg4<A=_Z8ocSg^>w3K:BDO%/,b6Iom5uvwN^1])D$:A5>9slz5`0&^gU,ccdL
G?oesD9[WbS`hO$P4[lL:D>eqjnq]J;WrGXnvO>HLIQns'R@y@188A;)8=y(Iy&W^1uf;Ra:n8.8icWO$ju'R*$J8R1zS`1,2My
QtbsfTbJa@F'aBt)IL0.&edgJ=NNK$7aJqBhzE7?TQiioa8pE+.rh;*DN&P52RC1)=Jvirbz:-hY6A6'`6jQUyr$$bP-;97dmtu
NJ[C>z-Q$LZk4Pxl[o0*>2wjM4in`=WuFe0rRh*^OBR>3Wl)OPM0HG?traF(:4E'R.bqFN9&seayk/JaTInL5lx6HdUrIaFJUuK
CG-t6VqelucM(SBe%+:N+<;r(Se2p'wyo$Jk?5Yi62`qgKCRtBu_;f>A>[d4eV-R?3G?7a[5keS[T+bse'wh'2LZM<]&]..dqu)
B0KrXs=boA5^ZYCwHQ_3KfJnO2EU5y+h(3okx*9No4)CQ7`+`1+tzD[Oqtr1=^Ye+hn?d@K<ad]ob'YJ?8C>gwCTX,3rJ`ZWX1(
YiDrg*u/;EWX1+=u[f)[qyh1.R;AK;ABA:4qECiqoLfuR^euT;1D,R)GS'fyCQhnMr&t7k9EIctQ`kePchGmB<^Fqtf`18suGJ3
VCRKCRofEF;pLU%_Cibm.eU$7n`O>/+&yDt:b4wEjcv81>^FuZ=9]=7N$^GP]^3`Sna:GqGLD%AtY-[+tt8;=WruZI=satU6y<C
>W[W]y6GvI%mNYvnSMAYV.IdkrVGIS$(6%9ms`;bb,H:NI@6-Blkne(ehjJ3$etWTRFDK,[&]8K7WzL`nVEz<lQ&y(p^W*e]zSn
1b[:v-bFuebr->ehdug-w/MQ@_)L_nh=<3ocsp;VLDL;Aoug$^Gm^An&_(HG3<0bk0Y/jl30?<K:dx_tT,ZA`lAX>Ve].n*Ge3Z
d2T@C(5$(um.t3xN3@y9VrLUta9qgc9mG9kK,7c(Dwn$v.7m/T_VG$e^,FksZh;*$beov53p_v)6Hj,0;9ZecN'Llg1;0.+l';T
V]Ocl0U,N=q]lj,d5t23Jvi$X,Irvps+S^q%r4*b/K*^%gl,2UOT.2UD5'KP:cc)He'u;HD+2kWJ(Z$C&L]AonopxZ-;)*2p&0A
FPCT+*'UHWILeO[TYw)w.YyY^U?=Lj&Zl:+-=ViqgRX$3K>C/iRW(`f%(niJcSapt_6VYcuY&I&$&kXz[N]8/8'5&*EphR=)5)%
cu2QHn'-/(>B0HD>>Cp_?S%qlU:29Ny<p,8_TWoR.`fL`XP]ZLC&MnZo-_i50RBT^t`,D9nSuOy=vuM+6Ax4Xre@&?grrdm2Jve
zH/VWPBaR`thi3x;IYlfdL$Fd^g3xARD2Mtzg*vf(;3AXQilM$wdpSSH=Lbn]DpQXM72RH$,?tjpI$sJvh'(ZuF>KdkW8m$D^<X
7KxoQ/Hj-AJAfE'3tav*Hfh/FXzS*6,@nh?J,kIuBr=o%J*.2kbF:yD^O3QbOU%4A'tarfo@yl=Av`kk7Y`BYa%]ZY=BZ>&W.Xs
dL%Qbfx?nkt<cW2'7=Tb2IzpB8fNbv7CrjQ5Ii]:h%E_46(u7@3o3)GP@1kx$zAX58>bbZZ?co;&+m)hH9?KU&:7-/$mvxYI$o1
V*JjQJF+]UiWVn()lNjJ-mf/2<jJDXHx`S(V9q9BKeW.5Bdit9[K@[uMf:SQ)q.Wm<-HA3I@`y%GY4;4b=-V'X.ZHo5O&GtMMn3
CZq3d0q=--xm4([-misSL_;'<tkn7$gm@aCWb>4bRtFSBpHo*s5-sy=^50:GfWrJ=coa`EKY(jG1pX%C,837sb:r<TU=e/`YSAL
mFQ:,CDZ<*pZ%g$C;^*DK0_:[$.&wfb,3k(1gh^/[wq1/(S/zG&+4g>F>i76Ex3SCr^W,VmJh'k$c/$b%6'(Hw@e*mowVK<^v[V
OtE1I6/&q7kl$tqVT@IXO`odxX/vN%brg3Oj'.;n%:RM_&se7indtH:S^QQjv*l6L-l).is&]%oJs$,[<LvubR6Jr@'8SrSMxC.
X>;c:.`[urAx?Hdu9d2tJSiuugn]jNJa1<wLT$Dy4vdR<Fsfen`Hpm%+q?2'+s)C/S]$zLQ-_R)5T(rN&&;c2Oq&%%lT4k5c>CF
X=/aHI[rUz7az3(lZGbu0<5WnPx%e@K7?7@cPEf<Pd-teTgnhKUD(;@1d5tqK8NQm4Oi=l;y7vm5R]uSUd1Q>z`=$qIeAMyDD&<
/dC9BlS7LVw5rAIj(0_-ZMoxqL*Zf8/a<@UT>DbCOw[>aznUD.*6CIL+AIRcWfgQ->MFJaLxQ6S]vahJ>C9fSoyl^jF5ei%A.$o
R-BxT/)?/gJbc8Z?2u(G1;6Cn`<`8M8PF%15oHab9wX]a``Tma%7Wmo9@[6v:hOB0R/375+j?4.$16iAd*+?GBbbt7N2(T.2e='
SCK:y+@vjy.ENO,$L`bO>*iDm7`[y_haD&BKcx=gbwW>Y5NBWEepm/<qj(g9E>9A.L4%opH'*W2i@mta-qMZw9@^;LcS?1>K&wv
yj(?'.CX)r<Axg)>U5<%c;Bc*8h+)-'<1_8]F-I)$+&+VuwI@:a%27F:ed)ZB)i_Jccm%G/D^VJU8bkZ9[bRD4OZ)n0*iN*Qo8G
U)pd`_2pW&b'6_vavxfA'iRf_Nh4$2=D@QRLyQ-ZfnhqZZzP?=H*kmmBs^uqaYz/IPm[cYYE6$;9$5M@ai-RsKYuM=>>qHE6gG.
@>U`Uo0lcT0=f7tJ'7&?n4-U7'am/P0&epjXRk=o2DZ[RB:4eLo+,`h$,LTx0r[J%D&0_L;YQuI<vZDx&KlL^gZIi`iiq.82fVb
AVyVHqhtUgRR1nF2i)*P0DRWwPFWm&)9ErA(XRG[$,Bc;;Ln]s(8buKkJpSr93giPV'ilGuRuf4@,I<EbsO$)LEQ?0r;6WPDHo`
;`*&Zc*(YWSl@(g@2HyP'pYF0&*.Wrsuq[T^@FjW$PNJSKlf4pe_[YE*TO&2C>TXA5i*U(o,mzsYYctLo8?W7TK9<w;K>uQaCst
I$2)R_WY:bCT`ge6xUy8l=/<RCk$h>:msN]UE5z.?^Xx<Bge7]$$c:;L)0nXr@8%Hl=B?+Y_hdAh?Vf/FHW/uM9rW8-1nVP2XS+
O5quRrPWMFb0.q8+l-WjBi3?w<;1kFf;g.73:iY2u`xJxHjh8Fa2i@9*jkv6%h?V;R5Q4&ujmMG>Tkyo/A)6$JfVV<:rX$2?x[y
Dhr[4svrfCDAao]O)Nk_nsFgK.sDy%0hkQg]=+MtH=:s>t(NJhrdr*+xH)VkWc_3cO)B3E&2OuV%?VABzVtr:`._;WBP0K8eWP8
ptnMd38HRtDV+Ke19jSF_T=n3/fY[&v3K0P>BZOxU?+VS&lgr<i,&yIj,/Gj.AO+M<a0Jd5a1(%/TvGZ3^`h^]l^@=QF*<Hu9+p
/)iu2/STNq0@b02AP5M>IL?nz18]$E<LO?imb5rw&)T'yOPqBa05g2ZLhYJ/O@RdSPG-qS0Ko8aec*^cyNHZC.0*(O9UWz8ml1A
,t*.B,.NsiCRo:wtO1lvK[MV'K0*S(6dCv:-'a[egYQ05Hw<PBUJTBoMK]QT:2l>6y:UyA_ktMA=uB$a`10oq3zLajB+Fs+oURJ
w`?2;hX/ig9$nW^Yy2HzCFyiX5w%_%3Vk)Xu^2I*?:3Pn58jC/dK<x99Ymy+8w,.H2Jwew*bBW+w6E2*]y_o(0vlP@R&+>7dth,
Zdc[xd]$e>hjeHrx]Azk=%]H_pu<cj8>aFf:z=rH3X/5HgyOOkrn:=:%.3p&+$)]OoQ@j^YDG8,ZV^3ZX);p9lA+M(2p<_kABDM
K?FLuaovN,iAii>i+G<FUCYCoY,_GywsMA3?aw708vP4'I-M&9:k_Aod&GFRZ,((&rhcBwmfl'/WrGB2%6rYcx`$<USz>.Uj-X6
TPR)nn%t[OMcmP]%?jU.qU?:IG=)aueTXopL0L^o>T/v<kb?Pa460a,RNx%gry])KjE8<;SFb=uSJea)3xaFJA_Zl[&Ow:T)I$7
@`=4;Ai6gZZKU(iCR)L?,Bm`U)]SXab3dM/N(&GOi^/ceT6>sNG?0lRFYEl=HSJk&CQ]sXCd^Irk+oL=+gyQq'2uXj2-ZfV>v89
-HQjDE2S-quDy<:n-D@W9.xB7wGxoIqU;e>ku:_yuE%2U11_D1u7E?'Pvo@T=h[flBzfKN$TrE8mDvFUhEBsXpP(K^`i`;x%m(W
k$sM^_)PT@gLW%iV1H*Qy%DbEy.yBw=6MQoJkp5cD,hsX)_MCzm^;c<ODdLDY8&/M>z/$=T$o,PI(WIW>[HApH<Te?e&d<ZZ6?`
7hh?_W`dwt3h&'Ve[&djdt+ke__*%wdteM)5w;[/l:oL)rcGt2X&4`;Q6C%afn6-whr?Tt0=(OZYT*;gAfcM]6IZ,<N>HQ*r;hQ
:rydPPNFI[agU]8bvZx:jTO$DYvG)Sxz]lGz5hpJ+h.Y=qM[h>R.=YanF)NatRR+<3e;KRB]wGl3Xg24o9Y9FG@w;+zU3J^_x]D
<a<4?gQpKfY]o2vrTe&shNqnibI8x>d/Layo@,;I?;Bdd;NfOLr-5Q0=qpM&8i4)KHJ2Vgfs8<pja0px;pt`zNXVvIH9r4rX_$H
7'Fl^u,-(C]p6OZX9f^TVquwz)gz61D8_NibSXcN:[AcP?b?GS`b9Mf2%@;E^^zA)/7j8$O.nhjY8h;2y+QRFzp`U.xnkccH6^H
mpWXg[Wr3?=TF+k*tu,zcSpxW,zleUs@ec`jq2Ul;Pdc8`)gCfv*;7^Qm,E_MQ[Oh(d:d/Tb?e9hjPdergR)&_3%4LL*RIea[DO
qt/_9P(*+)6BmJfwc&?Mh;ZBG3(Rj1,QiIhaoE(Rb=n:(HvQrT[dG[%U;mG`flEKe^Kws,`?XeqRAd..+]t+m_<?t5U?O&M<?ci
xEQ`[@[s@k[>e*<czeegm$4<[x2qLtl<K0l&M[$d]>f,i?8VMs,9oNPUFf^>R9c,o=h2A@&qE--='4agX0f1a6o%Z?I)R8n&6xI
w+Md<<YW]d<;D3oF'>4H&<+7wHwO:p:)v7j`kB=yyZ$40%$5bo&l.XJl@ev*O1FTJTLd@j]DT&g_;kI4*^A.CgD0RgcrzD?TqB:
7yDgmgPt7KWb9ECSs(G^d4e=Kc2ZrzLI4.bqefa?>_ZvCln+xbA(n(omN&innBpM*FiVZOl>V0(4,o:ty;,:B'xyD/cOwYcc6,s
+hqkCiOVJcron)w5NC)z73BO8KQ1ptLbb^r56i<^tMPc>*us?-:-agW/wn%D@-n`-2*?doeWs^evxo``t-C@'nTCXj3i.5c_4Ux
7$q+u>l[@,sir<yM3uS0>)drlgV,QRrvwE,pId9/Pc_Gs__V=<Btb2BDCV=qV'51O2L=:4P:M0R^^g@m5PDA*Q%A=Z_'G4',pCk
8?%Ht^]'^u%QU]19cG::'h]^tuW<C3)Nl8tlmb(4X8DxLa;c'P=Eh&',*dMnPEd?bX3oSD8F2HjvX]T:_a&)@wWtH.UMwDwHKY[
2$qTU;f)$C3Jt<*i9TQo4z9l-](7>Df%=goA:Od9d-mT0rgSx+*n$SAi>_y+<oMaVPVMbT?+:q;[Z5*jNqFX[P@.c;hEeffTaI`
d0O$$%mYlnj_zc0/+S=4pZNfqb)>@7$0Jg51cpJ[f7Qp5UuXGnpAB%d-EM4_tV>wBEO--P,_W7KC%m5QK4*rSZmO=JSpZ7E,$Xg
s^1rj7733pO4QA8=CDV@LG.uh)&7;)Swqj]LXn[Y$Y_=Lp8dPpyxa5]WI6Zc<xUz&d4+A%*iGn7;;$N93mKNq?'Wo(>he[2vyA]
G=IaFVKMirYpx,D@-z.J^[Yzc`JQJ5lzq/gE;c/5/g4<A0ho.I,,=7mSj=?'CacJcyefcxi[UsRO_C@[ep.&eX^RKH&o9pY'_KA
6M:1Jkgv$[fF3708[:V(d7U46+ShRV`P(ilE6qT<L73O+rs*Ip-c3>ijLVF-NroVDt2a9tIY0wWm`BXE.7,^IhuhK]_wJ^X(Ia>
nY67W-A?eS`Ds+B3^VAU=q3=;5>2%oimnj1t95zx,>c?wHS?AOx>ETOV_tmJ(IsdWHfUbch4'=kFpE^]ocK$2.NWzwGtfpowRkd
bt`Y-<4J[6xrOSoS:A-_V&8TC'jlRuhH/R:cnvS?.B+BL;;rYc>Um5NkU4]p,$ub:^'ahclY@w[YmU/bH5xDGa5/1kU'0mSeh++
7MHPJi-g+o7@Q+1x(HOF0Pr)rd]OlUEISJ:B->Qs'A*BTY940rVoQ47/9^'$P:inBOq%.;usWyM]9v]GkBj*61JOIFFur]G2lTJ
>,.iH=$.v(j[`srbrXJ&:h(XS29WKsMt@@j8OTs'>4wB=Z2^c.h:cs6>6ce[62+T)G2FxoI-FmwM^uynhi79l<LP/PO3JoV?CW7
LZCjbLZis)R_mMOP[WS3O^oP5$UuCpTf,?SWZ+Yr9Ww/7&Op'DGMpU4LF;EgL*AMSa6f1e(VVs;0-F2CcBd=uC?7>=Q:cq[HwiH
rd&Xw)]rNZb02=B%h`M7c=aPk(lLjt:B^F)%87=jJh0B37oX+vwI<>o'LQoW8CxZ&[W%Hrjc?qcmpvBS>[y_xyvY&Fk3W1y5FM4
^;O/l%,k3[$PWxvMn?GzW=<PN2w]UJw&OmALuRavxeFHg/o4D&K48n377ytelJDyV7;ciyVw=RjaKSX_UY6YW7jNqbp=YcU$vjw
+nnDcYt@@[>dr)w<9R@si-ZNXV=&RZ,r+A=tYxFQ:9$tpd-Sjo<;djC<(F$yq,Xq$(='rW2<HE0xjpNUtt::[]U&aUXV8<dyFOX
aZm,P(bprpw(iW`E.IPGeiG]z&jzpyaAUF$?k@&0fvJbbz;58KB=`&b[eYPq9d`%&&4wjvaf&e;7,e8tkTa[A65fnF8i2(s`O$P
:Xs47K;Q_'N[>NBjf+7E])$OEGX^n)/Ky1&z/$wYybceR3)w<ZT0hpW'jW/Io%(o1VaD0^bRMTnLM[d_3D:AT7Q=a3q;f@z7ICt
.*PUeck4;*5$HA2]YmCYcN)R:BAm+OyIJD6)yre[/R.7b,7r6I7mL&ZB[4:3g,+u[Okf+BS:Mh8Ilxo$ZEJneIjS4T@N>+n)OWz
S]X`C3p)PW(akR^dFdBpW)9j^kvjN4/mS</'cINz8'=.N2YEWqm9TK<8%JPUZE-yg7V)Ep<nx;5f%,dR<50hOmSwpp`nrwEky$7
bYiF+lWQ)Z1hgN;M$P&.-7aStCtxSs&5k/eOBcLb_-1ZAI$2QRbfmn=h5@CcM^]s';BF%,g=o-jhgu(6]ynFtY`>GVyhbS3BRJQ
&IxH_7R+C2Pn7X@ca$hQsHX6D6l;v0&eS4`k;'%k,Q8L^TBH/`i,-6/=G$Jn=7o^^-nFnW.xBbyPF)7C%*8Qu*kh>idp<`ksN1A
sPR2SKCBznac.AYOT&cmTQ9uH6xgtg__8oKC;?ZqlflpC)]FB._;y'D$,1=<$>'RZTCUT[h**<w'Prkzl26=TbiwgM1cn?cu'zP
Vn*Dwvg^?mX$M.Uj9zA%R^KR^`s7YNQMR[DR?l<Ee6irU*a*QseIp*]`g^uFiN%98s[BvOEt04yh0g<=+@^YYKqTc94PV:wBMx4
xz8J`Ny'bS^nZ;.kSp=bf&7gmaAfTg7VGVTLzhkT>^B3D0,SdR>h[12Gx:Il`duU0)EQC2%t3VgcFR/PfUcLUyyK-Z0-_1nT/bj
=;b:fY_$+2_S%PGDFCAVpB;03cf.xRZ_vd;.hn.IP[O*&55g-S-7Vchvkt75cMS7i0qHX3;KwY`tCpcHA0NVUozAxii,d+4%8PM
O9]q6b,X9KxW='/P<Dmv2V`G%?FB%y6Y'.]m`%-M5tyqPznQ'2I7[lLkj%vJ)E9iB2Cw_.vKr@?Vh.(6Svr7<Y=nb-Ly/IeO4-k
zR?yXtY*Ps(&hWjf$Ec7T_PC7:1`9G=lq]M@CMTo1-Hl@c5T^&D0n@,3q6l.e11nRKKhaF5y:4%0QUNE50SHwy_i/cPla]wBc,.
qRL[okvZhya4n&t0@'@4NEcs=t3i'OLC<<%'9jyTs4y-r[+;B[Ueq%f:p/Cb]]+s%;(6xM0+5RRqxd?Y<KU3&N)7t^,]N/W.S$-
Ln8Pw9RjgF=R&>;kye4=Nc3-JgD*TrZiC1dP`2Qro?vAC.+3,Qt]3H0QEhIksq`*U/w&m*+bE7.K=U2mN%19Bm@TM11h6X;VQN7
BYbqeMS)z<)?kQX<OBs0>wpWDB^hW^[rKFttc2c[_4z3Oz[F?tP<u3dV$.[c17LQZ:XwE:LT9?7zonWgJ;vQ>18z59v(1@[e?]8
Q7DlEGfumZrV+M[Tm`AN79Du&2M,OgMB8zB-gku'6g5UeU@xj63xFLc2IHgwZ6x,HS=Z<>$?dDf349^Y':GF75*3eiZi:VV%sKQ
KqPC7_3PkzlJsxFBbErhDpl[0N6xAH'Vy.iG4Wz[KfWkt/)g8;l1ZD+G_.?dCPZLr+_2,1OuCm..P3)Ac^Dac'GpXP_$?6HmSQ$
^eOg72**9<CCn%E/W`W%T/@szB.cYUKSu**H&K[qR+eD*oc*Mu>x60Lu);f8po,CS_t@U&,^nxa;Z7A%[t/hzV<ZJ&vg2_Aa^Rt
//kDr&x<0DV*3VYos_8<P?mxHV=JTz&s^8Ws08>]-p^[v9D>6VW.h,?<C8`+(c:bYPfl-MS:wsDD$3Nn>([vXq:HZ:CB-Z-uJXH
f0OHF/UM[EKJreL:<Cs`<lt[K-HPb1&9tH=;fD?ohis>Q=pqp:SU)Jw+<.0_:x<CF2cO&b7<ScVLeD'?&<d`[<h2>71Y5fQwC+T
xyiX]g8'u9f)dD:p;GZSl_f@)<2-i2`rv9o?lXKRr]'0X;6eP/_6.UPQDK-K*rEQY%y<w72W-o`+juDJ-DlEQpa];3kn%[P,]Rc
t`2`1lXiVp,,Czm>13uQwMEf=xISEzBrg(q[kkz3/ute;9_)1ta/JIC_R6J$z1,aeEK(:EU-hAg*scj(Ukciffs50k:+x@K<q`'
mo,2X4^%)deq^m4)iUVG-ors/*b4+Nj3;PT+6=Ce<QHIAcGJ.YS+@uB<R:;b?`b3J[ONU*O%4T[VH>ChC+Pn]g/cR=A-;n$.cw^
L^3Ghlh:b@9Y9b:x1[T^:YEJ/Np-9gn5AykhDv'lX%iKJwf$%M+A>ideX,8x7lBW'fLk_yo2V<5*Zo,(]X7F;mK_i65aPXvw;w?
-T$>'sy]'ifVURRY25<Lc>ks<P=yBi;c=_;NJGMFAzR[JO7D/__l)?u<v+>^Wg(/25xcq/=)C[,aN%BPK]Z_sr5^Uh7gaN0Y/Qf
co=&lw7X$/.V]rP%pKqe$vEC7Xm4kI,fh>Ia1OI&:<0fK.^gB.)r7bH7Q8/DJJTfI`=-9,OtZciyVdhzvH[)Fq+=:(X`iS$/&,7
7oLq3e;)r>lm>A)PU+kRWw$JNnN)YH(y0UA_fn9Vvkl^oIaz2sdB;x4NxIckOL0`6'$OI]a)(8NBdfIwykxk_tQFc5+iGn;<tSP
N?Wsd`Jp4yCvx7z2C,tRYe<Bn8/;huD:1DZmaQ+hhgep'Ok5gZ)nxn0;7&3Q'@nfOK>d3vw,]KmJoFlqY20*jLH0:nuJs8y61V[
tk_/9OFG)]1I3FRe:+KUuBk/Fj[SzF[&*Bt*yjFCqN*Sk-5mOt3Jg+c<i@*@q7;@,796JNy'Y+Ob<6Ow`=).S%z'b&-[hbK;(tR
@,g&UM,`VSe@w0gVx7d:u]v0;2I'tSvI)wO8CfaZkz>eFW:mKUL9/]3v(iYhM>SWafyeus]ZvOnPP3@J7SSO`M+a+7a%ZeTCaXs
tR+%4)a&3i6GgD,nS'BZW<<Jy+&OX+rx/m9k)mS,-`,'k7:SWh4OmHVHmh@Cg&+%'qr`_oi9nhK0mZ54WFp%Jo*,L`,OY%R1)Zb
an))'@5&Q<M0f2/CiG+qw^5:a$wHyD)mxNnSwhmP`jQ7$t8CFul1X^6M3<s8q`e7);o*6l<]txIv?Sxx7npJL9?pb3zt:-+M*WN
sk^k%V=SbR?RJeS^]Al:8bgY31Hyj)VWg=PkMfIaLcAkCb*mkJ'>sB?(Nv;z[6K==Uk2R&jt&7>Gfk18lz5RDPewk8MJ^BgE()F
wyr9xGzycoJMBxAZk:x7JN5rr3_nIk*^yx&4@<O@g*tjMwMjf$g/r_>F@_b3%=w%8i:mrWCbs.4]&Mg2CWDVhGXeJ4:Z(L%I`T^
sO+laz3dK[I+Y/%u1%^U)^'sA<Nw<5q_9N&e,mKsR=we-W?=SuYDBO7/9$5Y?GLWkG0Z9s&%(93-S+)DIl%.z(O1-s:]x-Xt?VJ
LEzp3joMCh,y6Qxp_P`Fkke)b5%Y.9*>E,h_.Rkp`>'Ls:&u;B$G@X70w_kSg(0/_UE&-uuO=,oPc6Z67IW3^5ZkB((ZK40FNYR
XX.&hj1x71QD/HT-:pS6Yj9(2VUAL*(;(G42.nxx_sA:_cda4G,tc*z,j%uc_CgLDbl@RY%qo6_4?FZ'm;q$1hs&q@6M4)X_TgK
>bWbWNF3cs5]Sd4f18[-y;Q.qBs.qmX8s9(V$c8`dc*oZ9vo%:/1se,UYHyOH1BN[0Gsg&P+/t$3*Wr2;@FBna;IZYL5OTn[T-u
.Wo$tf)F<yI7ZTuU_qk%ZB-)eLv,+0s9V8-IriQl+T%FGyUn`fo1I]Dfog)-)Yjn%xnTQmnjHvO5InFKZjN4oc5P_p:CyI+Fbid
lvay)_oyUPo+Fw*AG2)z:F_5KiqS3*c-^D_`TcRu4aGFVqC$zCzo22VSMz_cCXDJa.I&:%(N68Mc$gh4j$oT,kGLu/a]W]0I&j_
0K4_3dJl0DgTnS.0oyh()1GL[;9)i^Ss^Gp3U+9u7aKQ:x]+e2yyrc=9*[W<xq5)LcH>nQ0d5w+.Bs0GRI,(CjlfMO&`$Sa'.E8
v1Qd+imw;$b'_3K]av])u'CUbfNc0jsChs(<^K;hNDr9L3Xoy8O1m&g-8owSJV<l3,3NU'a6(6.^2YL[U8-mUHO%0V+dJnbri(G
q,[Md5*F0W/a<JbHW0z6ti<k&lY[]oj:Hyl&F+KK4c2'H_`c`T_Z<q69gL*.wq[a.I<J9CZ`HpZhNn:k,>;g2AZV8;<XccvTNfA
m-DF$e@VF>Z`(AXyVG8TYJ;VY-Mlb0l`Ybn7QGE:sH?lY5VW*U'lk8ESRe@%XMlu5P]-aK&H_Rrg^ohMG*1cc1a4b$BPi%&C&u;
tg5Wf4*%D*JCDec%ifp9P*<i8uxWe6H>:?=^wz[J*vk,MGX>@pgMeFc5`._nZRVfU*s:D,S6C`MI6q:g)r(/pc+x:hbGAMwh=R]
NsI&oUwRmG38ZPSfZr6Y&;7:b9(^Xpm1SMDc@G0u%_BY-`^z]rMA_aK=58.wh;,QJ]*Hc%33$.Pu'knfAuvO$.Fze%vKqu`A^T>
VKp=MnU%faiWJzfdH1@[Xm^>tVz^^gt7%iqh8fR[COsG)d3LiQqxa?nOC/,C7.H_6C.is4TIDLZM'c5[N>[V)A`>-fF7>'(SX[b
tb_j9@Hz]=U:5iKw'DzCm.%ceC;$voPj`EDU9voga.G/cHHwC*N*eyQQ.&k;&+]++,[Oh.?zaj=8Nk4h=;4]I?[/Y3mY4g;uoNw
NgY.0CkY]Q+n'MmZjH@:8Wd9g74][g@cNj]q8%OcyYGS%41RAE/QV=pdl?O;9v?jPg]kz:>tbj>A,'7O-N[KKpaSvT&I88'A0^z
5,=C6U%=Yp1K=N5DgyPet_Ygp)u^U&LM',P=*R$8$f2GQ9QdX31QsZ]tfAA64Zm4i>btmn5qnxE1hUEi$eL$EZ>A>@1?(yL@G[B
<eZL$>eEz;,TaRoc5xa$;?(wgoMZr:^V0wEx1vGJ0zp*[O=xM2'nLT5`Q+_17.)/f37aH1b^Ok1R<c+NqRVpq`w/KBWDg'<:O@2
Uzw3Y4m,<^ijojX[Ef>Bx;4_qH%HT((X,extE`D'>S[(:CAd?11$Q[<W0BO;rcgco15VT<%'6O.,9DN`;Q:x[C?x4)uY@oCQ,^v
xl19]^c_84+tK$?U2Jiy;;;5jIa%pS)K@CB]m45ctQ,nHOI4j'5<.L'<Zs)yc9fI2_Z`Y+Y]]k/:Ra]Y/3]0_OEN.LA]Y8YnFPt
%rC(EP$jtxE,,=.lZ4pWhb7>5hChf_q5?mx?-?b<%uBXo)wY9QBm=1Dp_2+qdfUr[2DzW@TbEQH6$8@csxD4e*,nW.enf%m(k?X
yVkXC_JD1+9ydQm@UXAYb*d'/kh$P`3st9Ccu&_z,h2^2l8&MaQ$luqmiW8cE)oPxE]'aS=_9S2@J3Gt7O@lms:6A'Ur)[<A_:=
*A3IPg4e,BCs)Ue7%wyyhTEXA8M,vw>e6wPf<@s.<+wLb[@';RDC/Yi6nB;wHDrV_l*%@/wReSsEa66iElF?fDJ))0zR%,heU2p
B+^RPZtckL+pgMB;%DNX<h&:MsPE[.ViX/j2dQqD5TRyc<thg1XuKNxD*b4L=2&@-P;67Z>oonEpw(2Cc8Vv$6Zx&2Q%cG44xNn
$u(`BkH:vB1jZb^$/8%z)Rr,LSe]2Xk0H5&VsA<2DTwUbSf/H@BV;8_-ibhC?%k635pg^PcVQn1_f90Ebba'=P9U?5c.:q5J_]/
+LgjU+W]U@TmW&w9n`]szxkmK`jP3/cs&a=R)BDMvvx-[Q/R$XamN3B%X4d64Qrlxc:qp7zoskOm.d7x%Qd`P_M;;0$z*XXEW<u
Z>u/6n`w_$:/O>yM)ruVx3?DUzhw`UI?eNg*GR]?^.Rn^SxLQ:Uu6:EO.n6?OKsp-,?%B:al1]Rmbl_PTX7Hi:vQ`rTuHWpF3qL
oMSB.&/KiBlm_F0T9Kx$wbiU2mkg$lsAVZ1Y>UE->(pgQ5/Q^qiDp;we&,x]d(PM*a-J7NSU]5X,+5I`yPLN?wBKm*Y:x8ortq<
/LlmvUhJhIJ%G^cy,ERBgO4w@w=]zAAB7mWcx/;]k1LoMK)^p.`R(3mI?W^:&gbjv]ndAGXq>c8+Kw/[K3FO]JVY$bX&OVnO%K9
/h]@MDz$LO%=uk>2S;xmWO/6ZTePil8s]H@2^=&uBDVu%eYFrQt+mpm.-^7*?^HG&,TgFtA2TL*68q<MI.j8%+UbQLI9`k>9.?t
,4,404q_E]tm`ipCs,J_:<%V-1SAV,)+<>5Q78TYU<Buk<]cpxoOUSA<6xuxgb:kQdw(ZVQhk3Ji>emzEG5ZhXc;M]EXtQ/LY47
j<BoiSr7sAwOW]$7Y$zHiZCB2LlJa*kF/Ch7PzWTG2VUvzYjtC6&v_7%ln=?=8ODO2[S(U0(ze-YbVbxv%NSdtRXDBOZ?'Kd[Fq
u/U]OGsq3]y&&]lWO->=QMor>b9;.V8xWC>75(-OHqsJZQk6'Qy*P^FsOrn`c*?pYOQ_YzO?D0-XSUU3^CFFi_,>MM5908wUF_z
7POwiqr&i3muCgIHT5c/dw_Bn@yVm/=rE2TgQsS=D3Z]s`gG^hd^LNe&*H;xF4o&vQ`rrD_(6vqy+AB8]ZUU.KyRN(ppsdQGORa
1c?8;Wg?9GY&>RVeMv8Gn>8zo:l[pPxQweZ=:@=808EQ<Ya9nK92/ajlXDpX.k`VM5IOG_ecPYIXeTH6rSvJq2hL.8;:HRuf8DG
I+JxOdr(YHJY;.?*^/i:c8kp*FmRY0]--]P_Bl>tsP@OvuO$uIIkvB-LycEdQ$atS9SjZinO:w(h7680UtQ$2Z2OiJG3<U5XA*g
J93Z'kOfeAD1o5odszylswdKJXM?J[^X81lwiUG?=aqaq^^U^moE@zb&)$*CKO57S7hBdhp[[.17LK,].35*U.2Lhu&7IiP<2dj
fJhtX&)IqOvi???uhqM5b9LBW*0Zi%T`Z=Pi0&]Ba?Qq@tt,e5@D?hOqR@a)dj80dBX&a>Bq6=/hsR/XPu:97zRhzamIh.+g2aM
aiSz=/NrB=dp?jxX([bX'B2z=;Je-5rXztDyInW2SX4c+hbVL'iE-zdBQV]Yi(t+B-^->4=H^tO-3]z@YzNX5%eV9cCpq=afXBv
Zd=1d'XT/kTa;UZDRs:&NwArpJr<)YuiyqDfi3;UGL)UjctP,0<7CYd2L3ZC7a(gm>QPBnK[_`$qk<XZyFF9A=MR)tPHE(aT;p/
rHr$iB'X>n(QR0&ImVk-`F3>6IIA^jdwr1@?&-t)^j2jXAoXR[q:SJf(Tu,mbmg=7ysk=L>MocOJ]:+]w)Z1qwb?=*t%,m?lY5X
XS;[>i5^Axk^DaBmBhPBEz&sy5,4mFF2ww1O6Td-H>vh>Ndf,@W,Uccb`(K5?;m+4*GcJ5p?z[r>6^N:ejE8rt>x'FDMfJBx&]^
`P<z^<M@nH+TJhW?DJB^HVhn<eReYGEn@aK;Ufg'u)tk_/RPzD.o.wq-gx<13vTJ,C0zX&m>L5)e@VZ5M6?Wa9`k2uT-S-etV/h
3bjVp`92u=97rMwG;H:4YxKeWO9wgd<+bzz^b_n(X*:=4UN?Ex(nQS=5DjZ_@nb/=Dz$E0v8]2T1:e;/-]xu,.uRhV0Z/2&x0vX
VnnSH7Amv>_7FU<aPVrTr4KU[2gb6OCWZHQCfB?:/Srl^o)u+Ijb;TXnNgvNP/Kp)TcU1xz3QnVv[yRfBzKP&XRGiiTb+'r,Io(
MxWkRD);Em7)?J2+[ufvU+l6c4KwrAvZY/FrZ0OBGJSMIK`k8b@82nH.]NXf,'kQE?BGmWhLu?c(w?b_7f.08=^-@?bY-q>=c68
1*c29lgd23Ns<LsO,y)t2D>bmJ$g&5UkTg>YYR8gu`KlOHBa$_PAHY<`u=mR-A=K4TBVaNPJ]mF`bS1:_q5QM/fd,dcH*JCWp5M
`NkL6b0)TLb5O]@E2T9.nQ$nQ@Hx06IFR)hGQPy='i?53<Iru(PsB<2RHK34IGstNjr'eQ9fKod9H,_?W'=&2/Y<u0kR*e*`*Qh
9g*Nz<X5^t[&QOfw1S09>ZsdvKptQ^;xz4f+&/A$17,/HhV8,(MkBY.pFpDnX`42s2`>1j]QCbq6'=j5N.mXqzVcNkxzx$?(/Yh
Xb4r*'gyx:jYwHi*)EzajhhzdDJ*(D)jyJzUYD0/E67%SUk-@KK(W:L6sXo^M46(w'NO-qElMZfw50J<S&rx?ZL+70dUhIDQFp0
E[=)n`qtD/F7Y.KZY4l.t0j^XgM:w$3iHusW*1.6cI9I[bjYf5_TLc?4,-?zo?'o``utYuS4>L4_R&tReBh^9tDEL8`+AL,R/dA
udX0Sm.12otAA-@8tjY,<1r;$,zFH44RU37a]RL[X_Caob&7Dqv::p5pIn4$3.-N0gV?L/hq6u2EFxqu_rF:Y+QW.c3NZAuKwbo
e(NWtx?o/u;-pstwAL.PO&XB`<2$T>qAd?s2<;&eh/TI99La.5x-na/UlH@`f_r=5=A/c?ytdZqj_F>lyPT5i87_Jn_/,/M]:a'
K5vlj`]C1_>WxR.Z&RMSzQlis-CgyZD,8b,R1$)9+dKwrS,0H3^wY&Eh0KWK3Q]E(9iyLz'1ItmPpEet_1w30'enrJV1IsZ1Ti.
KGn;.);04pR6*BxiM*VA?FCO1B]iH<0c0^S`2hCUZ1Uj^_)p>9h5?:EwT.QWZZ[h[`O*.zbb.cemRY6.=fV(YkHGAbuGJ*v(r)4
Dj$k_thfsR(tp:4>1,&-5^$Nd5U)gt]%t^?^N%C1y$Hd3[X,PG$*B2Q-HqVO]FgV`P1wEF3d8TKoU4/=JD8LZV'@go^>vj&<Yeg
Y)Sj)Q'@Sui%eR%)6mj'cZUQ_b,qCNAE`jV^G9Y8hMM)[n%&c`fS54I*3I8eNa0jag_hBLGJZHta>44rmeYm2/J.rokWXLxEIO2
NhvtTpDRJr*Lb/ZzSR.0EeQgCQJJO99Ja.C=@^7nU@AXE;rEn.jxm&,1@7'ellv4IvskbmTi+:85)=S8*I4UH[oa:n.O?QhKYyc
'tPyeiViNgeiBQM4RTg1P-e,Wq_>M8pznqHyhE3]`k2N;i-6:6K@LD,&lg.w=I$&=8rd'hStcd5f8<A;nRqond_yq)I?sa]9VV`
gDOka?F8NM32?W=X:3@>$bub*W*ZM(:Jxa;un8_d&g>?;%J&LR*Z;_IPz)=9a3L1x()/^sy5d_zvNPlV8M=8-G+jfhT+.SRQrON
AAy-jvG0V17jU`C80J+_S1(+q:PpA=KQcg:U2hs/;m7Bu&2v3_vtoZYDFk.2rS%CB4_<TtfU']-uSZgk.&(5I,x=ITYyW0&i5Tm
Ro]sZW?9c,Bzmo$37he?5oz.BV/:<G,e;LNLx])&^cxQ22;J]<;DLsx`X^^V_vgZOT&0N$TUd=CcfIMXFSx7<%vHhiug05ohOD/
sk0X)@MTR0weo[$bH>YRBQ84NET_Q^ZMA(<YA?k=()Cg?PPk@?^dsG>A.r7s;)KuN1DX?XW6FmVG-rsVWEuhi*DzE3^w/4jx$I4
-IA4,aIWZpLumFgD<g@tkyjdjq;iFDAY/3pf?Mat_sC;h]-2nWo<w0nEIoI]@v/&KWVrDA7[FnWcC<g6cMeTq'*a$K^G8QUJ-I6
Z*Z4.VL<j8RNrLDA%nJB30aNdwWayE]H_oTDf?&c)En^3de5NnX8JcXbwzdXiehq/32'7w+QmUq6C4@@zOVObJ>wc=]kM(Fb5UH
nEP%sPyM5j=^(:r7AJ**r(0F`tjJfva(qHy]P)/>Yk'Lb(5<`--IrQ:Oq;-Y+mDCFl),naDXcODZuANl2IVhJXTXgtEslt/d&1,
,=nngwN:7OaZf8EJg'e7r7`.ZTL4abt/tAGB2shg>53$EB&`=e<C>K46*vxY3(d9zLD;NGDUIJ?Rqk=W@t;Dzh3oBdhnyf^wIIF
/c*zH^lOwrn[1ZxHDQUm9TxaXF[X_MFQ4j_S'F*d$H86$;/^?)d$5FfAT%*rYHwn]Dhty7h`q=8d?+UCAr,Z3c'v8I2Oju:WjPn
&[DX/[K_9rzr1m<)iQY8kHdGBfm^pZ@njOK.$FRf9Zh*Z'3M4Jab?ALair$iw5B=^Yi=yrMK?T5CeEeN[pY)t561Rf^N<JHHOf]
:WNwtP8hD?):/sZQ:nv4k<.8MJ]I?+plkew<$&Y7';6'*NuEciD0J13%,@@r_ebM9p/+s:c+Lu-0p)eif>wPn4?;_*G;jVbPm6R
E^yqY_^VuN5eMk&$<v8f**n]anQC$j%sN([$02Mu/TV7ZT+tV*$qc<,_7/wEV/avE):bJRKgF(4`%*I`r>Vy4W/LN>d*^U,-[*R
EZ[;a?K%KL]QF,v45jlWv1BMKUJ[CA>K@31CHp7&kxIg,*<$8Fmlvs>,>VcY5)Xa>qmrmF/=Gvk.:Qf%rZd'0kc*)]]a+a0][0d
ZD5GVwML3gl:vg+lY=eIq&E3YOg+]C'2>__@,'CirE*f]Zcl?U-BQ*F1:0QjgTk>&P*2KC%6id7MW1g*eq@/_'gI)W%ve$7G%FD
ZmptTBb%MQ%CRZJSr=<g(`GEGZQ*1I/`$I6yGpLk0eg=EzcTHDUX:b%hv9xam_z<L<kC&bQk7uJk4>U7?hs3FkKSSG>IlrIN]o`
xTmz4*%h-nUqa/@%fZ8SM$Z1)fEoX%YSun[vSV(&ORrfWqE-8OM(3fBqn?-GR(4pcqu?4w*$l4E$>+Kvwuke;KQI:8uNJS]Lux'
z?83w'a3B][aDX:`Oc%i;ME;T],i`5Bew0@uKn8Ta.2'+iw=eP7&.agJPxZUv'`z+IE'`ojY2wV:3Y?3W[D>?[e@*&`Y6)*'MK$
T'Bx,RvG1f2BzH0v^PS-hLUx_-cbM*>dR&,D8Qe*6&Au0J]zsPW8yjKY)aHg_@/Ngrx`T,YT<'6WSh97@51VZf>V4DV)eG&S@=v
-Vs?F+pGf]h.$BeUgN8HbTyVBf=<.4x?tHpd940M1%%OV2`)xxw2*-Gqu:1nMyb2k$vtVmW)G6zdXeJ_?VI6P*Bw/Z0(%jV'tK_
J;Es/`,3hPvyIZ8>*dga_)ww1g&IfKv`s99<c);iU$o6vHj&@X8FPnoIn@S009ay&JNVz?cTdQ;ULF4CJIY*@1d1?l]s_TM$[hi
<t)hQ$YrcoTzW[vAiDg8s1$fuMLq;3,xq&Au`EX`mO_``.W>5)81i(i`a1%OMsH1x_*;n06hXn>e)fS.Ld&/+.Cg(HD13a=1Luw
(06oKn/M$r4cB&)H=sE[rCRr7L2vBi1ofqLwtk=<K1T4l('dXQQ_&/n-,N?sQb9SZgFqD/q]rO`A?pHF4XdDq$q7Qxuw@m%$bU`
)SU2pD.gz`4=meb:24o-<xemJXu+I0srfdVpRb/7c9Blcq(K$aSGW*4Ro'?DuX_PF$+_TbfIw2_vcmqH$ZT%gmuK&@sadj@h<wM
Jyaskf%tc$.RM5D>a(M.[p.n*I4]+?w5n:Fj@q'rH4U:x'&%HLc:A&GPstZymOaVmzvSj'ce?X.=@qkd6iAz=;XSB;c7e(Ljb<B
vSBT&Y_QG&i(V)FMcf0)z[&wKThzYA,e>@y[LJ2ya_[_po/.0Z:Fw]+[5mEp@6.1o+CyvWMLE?18F0QKSBnC8m]0d$Gl[9P6?iA
N*O91XuriwzWDNd)JRP<U<TpX.BI>C[-)h<6bh'/v;`m*>C:m>[Y6$:VAlAi>VA0-aUPXd0R@A>-Q&uk:prEn`3R=nLk/$1l&KL
(I1mwtc?'P5xwET`u9Gg5YwT]>.%of/(SENyPD;Yy6'6RWwHYG<d/1PW'jB0Lgez%(prp_2tquU9*Y23bl'Wyw5'qN_1D0?w'&M
9ebJY2?H?c1@Y:dntF)7FTH@Z&moTM8e>)V0z:rd9CZ`*`hO9JW.c[c`2QF<*RVh'ere74<wLQJ7s<?TWpOxc]-$pGrwzQOkkQ^
teI'wxsy<,P=^VXqR7[6,;sn&n0<T/xNSMO):(6l1'7/C;hV9GAyWg55]PZGT3PquzetMq61yh4vYwGZ,1?L$7$^]AB]OH+O@KY
ywXbgb%pb5D:OU[yyK`ebi6m-qN9NgI$4U@)N@%bPh*[_k'i.N'_BaNamIDKX$.b3o.NFUswEKiH%*n<wBL2ym0DT[&jXL8&x?v
fpF_iF,K(G8LOD0%F']tX-lfDkQg.<R:5tQ/ZsA]pI,@$CFDL[)sXB,nxO5uC(3O>zcELc7VvS%[6D,FY/;-BoSb?Vn0?9F;K&Z
l&JO6]fUVr]eyK;@/aYdw@pckU@0L5g4V+Ns)TyB5/8l$s0Ltu?AdE4?'ClOc9FZcanNHmG4K;cBGB;m-cWgN6A7c*N4w]qcaOf
cwoS0%bF)]`AfdgOlH6zow6akJ5*Y9BRtdqV1zpBJ6nb`7c4eP*d0s/=xD(kU_s1<NiHTOR47OZ]vN=jCc&_y`Lx3sB,uW^]MqO
ep9jN.dfJ;6zn'?2ky4r+q%+oU/DtjAMtPrGw$RCWf%+wPj5+S@Qc&aNna8ShGrJ0h6uJare*_4:05mgj*-vFBB_TtUfq(H@B2_
U8L=vsoS11q;?.4)WU<D)6LlnO_WJJFnLXU%bPO-6^ozLWI_YC9viw44eF;ltTF/<dmT^I*`*3g*uojnK*@G:&6ZW,bMiRxMZ3$
9NrZQSn.Xw<jAzVY,F.mL&[07KVd%_?M/[KT`5LX:xkxNa[a/<GVwA2DD)OoDoZa`f$1^D&w71d3bf57qm0+rD8V2DDY*D;dRB1
zg+_6E^cs'@/QBWuQpdGUVIYpj($ktEzwpO34@&oTuq,69<96SuW/f8]]Jqsvi2S4E(;QT83k'n0,'g+1QM?z:_qlQjNP0Fr/3)
j`XS+@qIG=.cMUVZa'Z+3zOv]*+ZX:[^a6@MCk<9L<%DJojmchM^0VH?,AImQ_lcpgX0bD2H^Am&Yv>g>Ff=XSV$9,WUoe(x+lP
N8nSk4@RYNBw5Tfg:l.itX@Q&n4cY$'/'4PG7p*.h@FD/Xahy>Xe3+hj%nzy4R:7(,=[y)jN`WK8YgF-T=C_Thtk?z]Yq=U6mJ>
f5uFehlG&9$CX9i`^.drz9;L3zz-Eu?%N/2pr`8Dv3UbgH%B%2)=e-UQ_xon/;kVOoWq@?01aI9]k_;F(P[SMly-jobr*goYi`N
xC$9U1@,i3%'Fd$@RG<*+d'sw8C@.TgZBVNg=0_w/fUn>-&Jf'l;7YQHUoM=LGgIzD*3,Bv.^kj`uOnu&kkN,8RM?S-Rr:%vna5
cG58jn_tKeTY9;HpbrBq2Im08XnKMfkbsseiWyIXx95M35m5iYCioGOSt6f_a2wSNOh&,LG6_Q(-m)yz;-&qBJG,Ykrp.akD)NC
DH]0u(S;icz>*+mqlov8i1T-xvO^1fn3N7aXG@*fTvN5?KDoG)V=Q:+DX(E*Mq.^SFZi$T?r29y*^BMa^,pR3D_@Hu$gA@5JC<k
B.UJm,duXKv+FdgA&2Pz<jlmz9us&ldO_rlT]1OOh-f(%Zk9=Bk/TU.m1+ztI,$*wQ_eki]ybpeP98VC/3cN6*7C,2j8YNbZ-eX
k*H`Xp*Qjtb)asQM$n?m3_`RUR+$%.:Imbb+;R$9jD9rw7O4?HWR;1x.8A+yHPVp^h*.8e<RC[?_@6C(Q$j'UCI2G)^bC9Ko[Dp
yh=a5z-4=T$'g/F'DR<`eP@:AWsmMGCEmmOYIH*Ir$&4/o<VbyZ6f$vh)DS=fC>QuX8$I4S(b4CTWDy_d1D%hLj,YVo(+Ywr'[N
aO[`gM?.7IdoLaW<Q`vj/c2=qR,dG&BJYLLXt+2TIPlM&yymDIYE/?WPxri1`yL]2HO'P4>A)1sff`Gv(ylQM_dL2EMSGKhNEah
3xvXOCS]WLeNST]q`9iO1'eDH&n],fn4>k5;h1_Th/p%7(qNbm_[`+T=qF]_G%j^&gnE]OHs[iEh]hrrW/qJ;B',A>q'K7,Z[:t
3:ssW(*H'a,Grxp+Kvpa$kEX]jyc--R0f0]HLt6]qZQ9_0O?ZyU'=%D-C_(vr8.eO@.&p[l$F?=qm-?_JPiBFec]x),>M.K0WY-
TV.,e/,3&l$SiE0jx*PDfj1U$@CRaP7g[J]-XJu(g@+)K@6h:J&L5(/`'QWM/0iJb;]S@+>B>nx0*^wk'sJ;$UJJt,j]QebA:Pc
m4j5kK8F.jE.);1q&x-c6(70$Gh$XKUz7=)<IMbOouLU+;+<`+nzsEPfC6vATkmTnzq*Gg;',^.Mms8l)vjU6xP=mJr<(4UN&s@
vOoWPt%M%'APiQGX]&nP+l/6;(naYUK$C98&x')b8LIu1)ehF5.Cd5pA&h',,3A.38h$&.b^qPcX_jS*7[:g9goX)j08z<Q+R8_
qoA/I0HF%hi=xSmA>EG]7>ZXq;$Z=k$'nQb?)m.T_yJQEzXTT-yP*hexG]%Mk-P]q>oGq*<Lssps53.I*`1i76bgMZ$c1tl:[pg
<+Sb?stce&U++-qP%`OqyMHF1s5n.A*pO%(ufQsI&OPI.4FL96)X-5uCOYg@6frLS-qSH4>@l5%Z)$wc.$ze<[v$cn(DF_Axj<f
Ci)5=B;9cx'Ay8WZCy9AryIM),&TesJuGG8IcMTnUSe8bX+IL3XPj5dEAO*O]^p_[zL4WtMPro<*/6/FPbkNmjTZ*hIUkwF])vy
Jb/W-+qQyITrCJ]%uQi$xQuIilD'BEBq2;KH*YX7V)VSMq(nY-d_Wj(<3d.:pAN-JE)Mw&?4ZI[)^$:N37Rm.SoMG&$*3,tySRs
=-xS<8VZ/x=fi8V`]8H:=HM8RK3*gy2m(39);'z][JgC[NH+:,ht*u^B1vb;ck@y[enwJ%ZtJVzw/XNVMlR5otTa`:*UNM9)'9C
3:-DTaU^1ap_yPruq=Aqh-(3U5>ae'mNRg'^ZrppRBl8P0`cU-qC]L$oYR]Zr,8Y-nqK3A9PA[aKs,V]_h@T_2bGJ7fI@Hs24n4
&eDE=zg[:17B<0f<Ex1061/`3]MClI3_a'i>Gf=AFUvV)siU3=29Q+RySBZeXuz-'E,w4Tx1r46F@>?9m<Y+($BXTOOgv=d@L1T
KcZHWLAHd47'YX(m`0[)aW<oaOS6c+n/zO$i+8ZVO2y>=`O7(q0mVaM%<(w;Y0y'5lW%<:G*EpumbBH^38YSk?omq2rmWzrF.hr
3=oi,1)@tx9+KSe-eF2?;90cznpE2p^lDNl=i(P6;8f4ys]ct^r)dXv4w(+,&w9(1^8H_=%C<=K?(D+gvmTk^-c'v6RS)+KK[Zt
RIA-1_$y[.w5ILQ=(AF6IQi3xhqAhEt;TB%7UDD1GMIkA%uEzT`GEZwNEa^IwS<-'=.<O?<Mn+4qaMy,Du7ZKn*1-^+^FNJSJd5
+%SDaU6JU:L_rw?w7z?U=L@s7p*SqN(PJJal0qI$9r3qiYRT%;(Mkp(5j/9@8kzOVz+ZSNl@.usf`[b(Hfy^Uu,uQ?*V5bw9c+1
U)ZT?@Z=eH6GHgghcHD8DuE&6gO^G<J:0M`)oD9AQuoze/3N1T@)74-bp[ym7P:fSE<ehj501Q5>-`M@Yu>@I8UK;&dofX[[q&v
,dakh(n5,V/FFE)8$X]TE_;*,>nzNiVVBkqwUI,isgMv9cs3GlbYVOf1?.(+ur9av2*+5)Sp(J76s40&@YAw9IZ<a.s,y;2j:w0
cM@68h/<vPG0FnQR,AO3R%de-:ONn0=u;0:MJ-abO-cqEbGzNT5P9gMI/nLn%>0>yeR%SRFfR:?i8$ORH)FJCBWqv=QD`klMEpy
CS>+IEVIDaQ/,C,?R.zfv=Wq'X6t^,[z;_$Q2ufnhGecr6cXDs=y)rca]:].90N^b(k'&mXr7>M8S=r,(Y?x?.)jvL-BfV'^x8[
/sf5qKmw)qzS9cgGrv23v&czd+4q?Tbn^Y;mndOFVg]]Rlmgp6/1f.u4LWzP.Jp2]s)3r'H)7X7Mb/c'g4MBZ/((=zxY7l`ZbKg
ea@KI;hD$jEn$l[[$V<cuEXgS,nfXCD@iq7m*%z@XqNStM-%0hqT=_Fbus_.r^MUAfn76e&-O<;.^ipw-xS;jC;T5-U5(^;]k:]
%.R18B:<ZOYBb`/YV/7ya+DVXHXf-/pTTC?-SX-k(1khJ*mQ^gy:fTQml5;DhD22<TO-0HX9Eb,Gl_[-GM$9sJNSPh<rblT5O/a
0G)vORb%U9L5D<_QbAf/2)+$.?j49J.E@p_<dYkxtaGl9:a2aq@0Wd.2so=;P<M[O=AUm9/(iDuNO0_/9L3NV[^OPX^+?[ERHX;
voxD(_5tn-@1$C4Icg;G'^X?s=AG-c4(z(FRMdc$o:_5+yG:/JvB11r.@ntcQ%_+QF8&x[zM_YwR3CzcbuG:vcELTP<CSa,39r,
A%D4J4Nk%Y*1`$1:f0G^+%e:uWaC`AM$04c2iwW=?[Cq*WSp)w*;ttk$6`8<Wng%CU.ejBR<.vZXL2gy2`@Ap@bMU)FN_%T:^gX
=H$gF.nBAvZ&>ZJSheo^MySWUxGn5ignMrw(qU[L?t>9x^so)nNDvV]sp]&Nv)?iG$)rJA+wJed(b3]Gm5k=exM/y.[pH:Q:Fk1
TB+;aA+)r9K)`N&19WXCuPlKelz;]R2>g8nqz256EcTPQg;/Z%n4<)aPz?+4Qkt=D)C_w=b2-X*b`oXgx^:jdO7ovnDAp<t+t?S
W%5sTx/]m_:2lRJ@auR7m?^tG*<QR@2xuO2JgR)Fmra:hZ.vTeY^<^8sj%?Hm@(W>I7x(x8LVHq6`8*M*HGlAFgk38,_,KVZH[*
glCvnh1@@<$K?+%^CIChR,d')&(FeFbEY4xFw<G9or'[O@86A8y2CZNqD[;wZdQ&Osc:6n`LzQeb;LM&)bI)1'LT':]d%J%Gr%w
-DIw%1:*d4=g(2pA.O<=i]94r9hdKMEgcPT8xBlCbT95Tb-'_vCUCSI.l$6mI$Lo1T>D$)ty@V:Q-RIiN_z(CdwbDxgYYSTB'tt
yQVAXm>,d9K@]N8oF19eO*24iY)8+NE8=b]?]$@R$,XU-&pUC8=F=Nkef&[zz;,7Tf&tNZ9nQPJZ5)`+>t&2M<VlQC8c&cfbX%;
YAXBBq,tZEIa:]De%2)itxa$A$0NXT@1kmGpaR%^-wX:7r]mXq)MRNG21PG8%^P$8bBhMQWHII[cuVC%?f2yA2YX:4vyJ8R<2z'
+5(k(2B8<V3JBV$n*ky)DhAf>;'$TQ>:7wd5D)dgse_F9;@y`<u/_rV+D8yCVnG49-=C14yvOfHS9+R;qm<QJeOXpG%`U@FABmO
N5JcxYkTkHCD4$4Yhx6VXjy)sP-Eyzc'p9/Qfv(c(zXEeqO08n<j;ga;@r0qWe,b>26z728&jA=R(`zJe/tU2GS7*_^>;Eh[?_%
-nBwx_;dTD6MRcc7R83jTy-l`g``*2@D-haX5/ZdZ/OhuwxgQhVZ*x/zAT7QP9LjjMPwvr=iAJ.)%/+8Yu@FtODTI`y3H&oi7x^
_;*M5?NYl:^y`S0lqOv(/dT$x^ql%S:;4S24(OoQT:]=+@AOyo8,zL2nORst<FvLK_%<fD*k$IezsdO,v?Pni4<*(X%ES6XqK&V
,gT3'e&;A8tQ>`1Kl0esLzmYQ9V[uEHw*[I[A@RU'fcRLTdfZw]ah]hhV7['h'<.D]^C^[)NKcWFKMyG$^`zj'9:7Y/+I*(>r,-
*cs7$P[z]2x),=XV0'+ybVmylM_/-8rG>.DaT5TEW@kJX[kydAj(^Sz6V@4qVGJwJ`]bp+AwKK1Yjg4l(bGj+Jc$4*U8?U<%5K(
Gn6i*L=kBBOkpNQUIzDV5ex)Q4K@Kw-0,yJb0;AKE>[U8$2;-5i$&[(3IN(*pH(hG0Y+=T/xg&LevTbav<(h>lQ[G:UeC^HIXs`
$mPgsd4=2+K/81<TLZ3]amRh;8]^T[F?`UflOmwRX[*eT-8?Ax@7RX)dPcE40F0ObAd(i<^/[Dn=D1xA5^PO*5<Q;e`klyo^s8H
zq>@at%ogy`Vl>yMwEbKyY2yy>^i9D3Tm;geh)WhOCZ$)V0RcP_Hn)V[^;vRyD'vzsFJ'@eGe>k'JlQL7=336Y8;j=-Hs;;(Hxz
T^v4)9Rze.B1hR;x`,*6oB8HvqR,Aj.vZ:eydX.hqUsGXuHvC?>2.fqUSzhrMZ41AkzEv$I5Qp&d2_zzq)GI,X$S9iNOhwex2Jl
y4<lH'G9jO;[:pePHL@yL>04wz(5h2zLIy%Df%3Mh*yAq&GR7^EcW7(0<W8n;g)_F%)sTxztp(Xhm8PhmCx:vpyZ:,:6xMBE5%t
)/h3QI1+i2PfX%zcE+Qp2N0Z3e1[l31Nq,0&36EhkEvo'-7VGcPkzuvRkJJ_[SGk-'p,gFt*>7rz0WQh6rV4S,+2%]d'l4hPeQp
e@/nMB=$+vGlE^2yVzPZn&C.U?2OswJr&h=bLIIV'O1%OMc=U-R@mc/QebUHYH3Y6Un[H`?84:3uL)mslyNx/TdCbuk]vRbveh*
k(iYe>[G=Q*9StL-Y;I=&q55tl*,zy5nIxY<>0plD&e[Gq+c<inb:ocnkVE]z&Qb<F[tNU[5c<GPHlZ'?aAZ0PMQ^12+y$l^&c]
qm6]1gzr3tDRHF_&$FLdf3WDGg+%k*8VKusefEC1PkHy6b;g5pp9Pu6cE%lW;JK.dYQ46e;^n&<Y<PydWE:BLsa6mdz/:ZU*qn_
d('zENB'zlr*n8jZ(@)2).ht:BWhehj]uJc.r,=y@<ANMN:r5rS*=1JG]8775tU,o'ALcKuvoSjS)58_IHZ9F_<)(jw9qA<NSL+
p2Of)G[CgBW:`T<+5EDD]K9(8:j;_U$D^@;5FtvAY;fQs)P>FnveZ7eiH0BZQbHdu:C>hNd5JR+cI3;P:TNs4b&2Jdq2nG,5i'-
982c`u%DRmi</Q/?<H?bXXi]Ao1rWP7Yv*rV025Q7f>HqoVhVEk-]hMR)F]d.?Q=ryN,]L8s5d+QHv-AE`;wJ)6<4+bwzi/Zpeh
P,9/q2l+Ag[8eq:6DCk7R-s0*-/Hj$cU&c3x,1w;8.Y)IC.z9hFCA(VG91Y_;$M,CQm4rgycs<B'VmLYw4x6E%o.Wy@(MM7ikP1
xY1n$[JX4fD/hJledceTOv)I*[)l<ezScz*yX6vKGu9<q/:7*oV%@Lv/Z(rX&++YJK0SJ:1WC5=)kh1z2l@4??]NhOSC0(mY*i&
Hp)R4f5]o82T/)U5GTezHn+o9Ry+wE^<E8_2CTYGuYppWBbLv-v&A0:i's?kUKy^hR4y,[:K($,W`*]:p+w.9?&%:nyg5Mz.s@P
%7CXIdGdSgbeUwDwV%;0ilqOA,C,')pI([Wlz[5d^9oBJphLcD>GqY)%.R^;V&IH-@7uf10$,%xRc%c/wS[ui1Nx=`Ld2-Kln]k
(?Cxz+Fm]Lj;La2o@e9%DX/sel[8i@6g6Y03+V5:]wB8Eb/l32$i]8`<e2OH%*iB2wHQXg&.eY:=aQ-+XFr='<M&6[d;ke0@GJ2
M$<P52vTd8on_fx>E<S]MaWK>C4V`XX:K5s>EAJ8n)9BgYWj&FCQLUfwZXB6xU)?ej%$ViIN=En:<:M5JLhO_'KTPDtY.q;*=2Q
PVtqF99].,Mfw38?pyme3;=VP7),][V9:_@rpmJBZsyPySS.I@/dx2rbnJVCx.MaH>kNduuUa?>6%<GlT..o2rOvPoaza5;ME76
go:s@WLGZhY;./o<QDHrOi(wA/2^oI.3.,L2uncu.Ly$?]art'(V+T;:_C$Ws;(t0`gNtAnF`;C-r?0FH0fiz><rAFBCNIe)nA%
XuDqFs%iTjYjYKVU5.$$IlLNU9k3w%Rk%xw]8SqF@525@D73wt,VmxLSf.H*T]V[s_/<Prg?y'()1Qqt;&,V-mdKmZZ*>Y0Q3N^
FUzd8njI<xICs(Lb5NJ2Ee`/zO<5kN`7Zu`3zhW.2V,<XL=?-EV14=9&B$j4&@(TH^l3w-*7VQ@`w[y@4?;i[b[[9XOj,>gnf'M
z)YpH>>Jnh*19bZDD)b;)j45ZWo5fRD5DnuF7rhN0<-ew=CWFgSH5gb]/`t0J_p.@?+1^-;Q)-7:s@Z_?-X3M:G@g-%TGl>;&^i
lm*<_JeO_6qBIpL`.fk<%@[jHL<v7J6X?LgrDr5mJ5ikGM]*w)6St5V74jazG(4`H(93zoF'sQ(6Zks*y(edG[C6rm'$bT2xSzJ
K1?D%Qy`tkDgRgO06Cn;;7[@i2R3La-*^E^elk[8S.osI]r1IT*]25J610@U^&;2bGA`tsz@NtU9VR'(ejvT[k2GMNoh/X$:S-p
$JW1rG+$$q.Y<grh3`_U+A+^/k:6=pj8-_n$7;+P``J2YiD?-_<+?VjfY_Xv).NUYA`Sq9cz_x?LxKF/vZl0MoCqttR[:vd+qp$
Mun+tr7RXKuNoI^t*1`BSy(><gxJ,A7jaI2.qx+,]GlXZ/euz*,eB+r96C_3nD]YB]4cum1[s/[LCJx:wxLisvZK[&DLWrwQ4@?
eN.&*A[e/`jiVXKgxLXpr[caD9l'0h:F;hMBb+x**)Ar,VmSzjZ;RR^;JvF.xr=j>FH8(?EQ7R[5&0J;'XoeYaS)Ar,KnHc`+=@
s,v8WY6C;ze;>wq51$2Y8+DS&uM=c,@ic-zA2;_zU_A>^e%*-nQpIiEWJD[brfS':1Mm6A$S-?QYrGw:O62Ju0]Z&D=XnP_Vvz:
sg'U%$8]MdyXo'-1i[DMF:`D38VAAC5JQ)sPMxs@1th@9ga9iA9n;`4jwq6B+VHWF1TldzP/PM36Bigo_6hc4Ta7AqZ(uH0i57k
WprDJOJa4J/QfQQBc=?8wHA0KgG8u=53nP65XB43kxib.Zm-VKcRh@`VD8J8H,*A?aR<DQf,Usds9'$Sc)U8E:[l6=ue@dYhLUL
-TTU%i?2pDyJ,1KROx+;WgbbQSBZHF6wIK_F,Jxi'zG>AQ$Nng5D-ppXKkHtjQl-No`V3oZx-,9g.;&4nhd9IvF*K0.HaAp?K7@
@&zvPG'(,D?BrM^b9jcfMT)9Pt9p1oDNc6qDbND1K>I.d1/6[@TcvUE=6dgr>If^4<nKW`BD1/820E(&0NcqpVpJlGs5+z0ox>X
blG2X/[T28VmIMV7c`X+gZfAjPxpTWRz?Yrm8eSmN?.@H_>fhum4RE`c?;tH0q]vf)hNKR`CHakJh&4o==(hj:CHx(^HoNS'Mv1
ObFoCFP[qv'FKqN*xJ_:z>*k5zz>CjVL@GNQTCWXK)5c=f<,i3R(^[BpXfw_jt;Ede1Dh^%.3%N>MxX=nSXijLV$q;qCaa.Yie0
]>6`.l-]>P+wpmx7,a4(3l%u.*WOxg$:ou<PlJ?`_4eb%AP:yrY+L-B=Lj/E`AXz[ZAqOZOw.VhE4vG8F7)-E>HWof[;-_zm/V1
Vt)'$H[`,S23:ip^+Z$fPF1Ben0?OvfMydniE,]iSs2B(UfGL:yGF^OmBj6*/Fva4n)7%<u>laQ&aEISwUke9@gl5v'O[88<XB^
Ld)EmiQxF=9E6b>YKhR[[Z/*RZDMXz>M1k0a588/6X,(_lK1mfnvCMH854J<pPql23RVNxJY]09[6SlZOhA>7^^7?8q/95G`+KD
AcA$zZi`,aAg+<:R<yW`UbWcmElL_lWv%9Qe&R)9@(]cU-@Y>,S<x>Hz%KM?Fu3PIJ$XOlT%@Bi<WaMkmMm+IPDf2U/150CxSzk
_qEU.M,SzpG/ohJ.O?W-xSJuuHM2.60JS@x%ES,>lm?0T<[hN+PJS5f18oDg]j9RzoK@s3<hcg]`.p=CC6HtYLM;;C][4@7Ta<.
ysllcW:AC05;)oWYVKo$@<0Cg56qB3i1J[25-Hq^wYorH6J0b4+I=vAcN/na';i-u*33h^T^AWYL[iTt0v;OU3&wxuBP?%^r9Mp
WxPTMLsjst_Y$u@N*(>UM1Byv/^DfuI,3gJ)&:*?`PXkVDB*Vd&=N=w4VUhE3sX:Kr<tfoZ9Uxxz^H,J$%K`)AF%UeE-TDwQ9.u
))goVQO/B:*hJ7lm?sO8u-`U-krx&a-%mc=XcY1YKpV*d.g6B][:8I?R;^,k]?YQ0r>-qa<OI3UCzdxD5TT)??lARocJej372Q[
/8>eNb=vR0tz47,>x.2[WDkWM:SxcIz]A-dlG0:G5/45Uj/WO5f/He$FZe)GCfhxl>qMq4Xu'vi3yVaXO_r46Q)9dUnAB;-gury
/MaEGd:1NpCTe*e<41[dw%2t+7F<dNd%mzv$QtzFy7CBO]FusMOmOZ*dcyEPoyf&<8@&Ab<&+Er1W1T<?IBeR@ikY8l-Emv8wA,
HB3xW?MKl1b_+RuC(M,DV:TXNiLM(/l:D<SwSIkEBTUrxYe4yA:Bd$,]KfN'o$2)og(G<FW(90c,&I/0D_S//H-I0Kx'u_2nk:z
):apU1L:VnWZC:[uZJ_WD5(;igAFY'uMI(koRzC$HU&nnNU9NG]>C,eX-]hpT730TvHrNFU$3Z0$dIkTqEECY`B-NC$VD/=BOt_
opUntL2X8+pNKE-y3fuRf($&Z%XW$EM7iCM32?)a%cBd[K'anl3py?]8v/8GATudV(](]3+Ec*W'Cslv(u^uTapTxkYPb.svb?0
:8BAG,N6bN,1C79)rjR%tKM=i*N]VQi()fH$9P.r8$8$PF;_;a:e6>/w^ac_<$YV*oNe$n7jh^LSjg?wxB48wn,A'rZ/Pv:FNyO
_sar_&IelnE+`BR8:W%x(HL7u=/Sh*%XP;vV/d9c31DYG@13:/;r9Ab_/eqxNDM1yDL4DaJ(3T[AgjJ2nC4mqNQ]2JYKCk9OrS1
@dhfNk6l-gGm+=X&ix'%)>3pz-KCB9G+CLsO5Q$ryGi+p$s8je'zt:j,n^[+ov(f$.5Ws;KsSlD0E^4dUhaI=<xrf$:ojdL&G8f
)Xe11vk-NeFb$:R`'JxJkv%c[ccf&Gq:tP4q$?CoO:`'UgYF[-fEp45[QDh3(F/9SOO,@RlsNW+jwoSJK@leG5PC>jq3dNhp$.<
4IsfS^^VPJ.5%:^X2.1lJFe.O$og&E3xgQqJXFU99fRo/hCx/Lo'UxZuYzfNzpd[iM,@[2*Tl7H7M29O;E_kB)INVDt^U.Mmted
G252H[V$7H^L@ZcW'o4<WXUqnjln@=n]G:npr4:V>L_ax3/79n]0Goqu`nuMK%KkYAx2Gt$1rfHw5@s-,nboA64O;IhZC)r6gBW
tnHlGSZakIf*bX:3XmBt32.7-PJv4A(Bm/?-)tgRRZA59z$x3COrQEzpzgEFk;'M>d&^aqo'J2;lLx4-Z]a3dc1y>3v'LE;D%D*
+(gGX3l0jv0ewpL2bOWd(mdLc4wXl6X,P-Gdj?@ICBvI(*^hVyB3<a%OR'g7Da-Z-Dcu;%Vt@j^O%,BdC5D:uY>38H[zZU]=DKf
_6dIS/q:/*m9MZy'$.%1Kc^U-rG9br8:@7e*<fs5yjO_H`5qdk.tFz9x&=:S$fKcS_Q]16VM22[xFBd2T^5S3,e$h;]J4vVumYB
<b0wT=4sBSenz?8?uR[`khuVSFRtYd-BJ7*K.l;97c5H&urKgoeqWcVBYR*,Be`1]Vo=A%^H67cZA(rJR/BB0YLPJa`:Gc=`)>m
ub]`?04rV6v]wM*c)iDUgs1XT6,>Q=f8jOETIx1xJ<MUtj,E.806@4ffX(H8uMO?u[DG:%Fju=kx>]XH>5XHzI-IF3z29SB3f%<
]D@<u.]:ptW>mBF3f9+6S+iy<hsH-]<HjQP4ns.bOQvQJ5D_xk<]pS+<<AW(,w<o;q&Nlzp3I@?]L/L1i=r5K<,ww>,0_%b-r)K
&RFBjtJ=07aH&8>X%lnVRQlv;2vc%k*i+1v4Pr/,c1XItF(rOcLUNI:u-taC;*cuzHr&mum>DDaAxKL+65$H4qxq:v>hl4Pm9X=
mUC3<0kr3GvHKVooQem43@]0c*0^hj91D%NEYLQ>vRtpB`JKYpQ(Gttc)SpLH[)'GK<R5L;X+d/n-xj=2VjdCn6e=GGUR0(?b28
,WpX;`L-mFMHtKGybell5u,uyh-,:7iDkhc3d;/L@VOyc>V4q;^yalj;,hER'L*7u4`y4vtaEbYCZ6K<J2q.OwZec)1Ry5?p[S)
?a,%A62k%PHB)*%gb.QJury'*)E5t]IAbxnyUf?eY)NE_eWU0/2>QH'<,%46KXRHjHcTIPCNh+6/D+YLTA;LCz(t?8lsb^Vz8%B
+ey%BG`hoVE]K>>dqM7N%_fsuwE.Ys5:S$kv;kRor$zp7e/>p>lMRcGJ-E'-_Xd7D:hHQh?re&E^yBu?jn('tUkV=2($kB/Afjm
qOAv>i:sjTTF$'.O>+8MV/XMTcugDQ:;(d,+q0w$5%<Yb4hU3h>PSZaI?Y8t6Mua0ptBGp_3x&dWlidUm+RHOwBA.Ho3cyu5Dtb
fttbadvJMYz1HI^U3m;<?rM3A&IapghCAKFL&Vq@ZagbS(PT8**Q__uTWW],uv4Hr`Rh2hvCSgF/yP48)5J8))6-p5VmSYc-qBI
]52$64a^i@l>5;yi?>;q>bygh$d=a7aq6.xJ7U2o`B+9^ejX91@suEYtNx2>Cwc6[p,n%MMQL`-8id_N%mKkQKxl5j4x*-kfIE/
ynBQ`5VQ^(=y[ous;ypps4^A:.3S>*$z*QtKi&0uM0WK/*ElAZI]D/Q7y5lMgM=Tb;`yx/x=AnvDF;L$9dPyEc1t03Yq67pp[&6
Gy30cNT-cse755@o8_JT;dhUB.35w]?`mU)*^]G[,4s;vaJR_C/,x/neohoIR0%L*Hk/)$.E`9t0ch+JlarR4WQYEwzG9hRzVYo
XY?baMcjV[^>JXc2EjV*.v&^B^QUehceYFDTmfR+([H9>b^'6>7-&'>/-8M;6,<[-CnOA]TIH?NrF%%]p<JLuy*_b98zNOI(Q^?
sRE3_xhG9JQ(4OxDUkV.VVLNp1gJjad]:,&1kJb_Kkz.*WDDEvO@j-Z62'uf%8Ibjz)Q+=EaeQ$)9j8c8qX5lsI>5xQYPxo.f=m
YY=>h9Y&xKa.SpspUs())D0S+9==>x;j:?*dy<WTaZbc'vY[qTMG%G(f?Xb,)F8cyJd*4gtd9(Wiw$Pt.%faswDoe')LaYGN.K_
]ZoW;<1[sOR,cIxS1aIBW4W:vN7LyFu&pA<Mf`>2QluSsiE,cP`-3a+mD2k6ViuJb*.v?p5LtDPAQNA.8NLlL`e%BiM<DI?eXYh
viMppFs5LEz]KB&wCStrUY/@JJ%1a:S`S3_p3@.0+RgtT:qdaP%jC'm3ra9BOqa5w_=3X_qbEpE?c.uz%NFop
").toList.filter (' ' < ·)

end MockGen.Text
