import LayerAudit.Syntax.TypeScript.Lexicon

/-!
# Parser states of the TypeScript grammar

The automaton of the grammar, a row for each of its states. Rows resemble one another, so each is
kept as what tells it from an earlier one.
-/

namespace LayerAudit.Syntax.TypeScript

open Packed

/-- The states: the number of the mode, the distance back to the row to start from (0 for a row of
zeros), and the changes to that row. -/
private def stateText : String :=
  "0080Z3xk520xk500yk502xk52c1xk51Bxk500yk502xk510m300zk500re100F00tL20ud120ua100520hC00Wu210bx400.f30
0va100qe300hC10cx400dx400bf400Z600lO10iC20ex400W100fx400cf400df400gx400g900y940b500o620.Y300tM00Wg3
20X300jCO1hC00la520hU92hC01kC00wa400xa430yk500gn340eW200ma524eW200fW200vr303se110YM03se100wa105se10
0na560oa500pa5F0yk530qa500hP40hP00Xg300hP60G00hP01iP10hP13hP1AhP50Wg100tv100ss100gW200eW200sa520eW2
00sa510eW200iP10eW200iP00eW200iP00eW200ra520eW200uv100gW201Wg100gW200yu200gW210sa513gW200hx401eW211
eW210te130hn3A0Wg120iP13gW242iP00p610iP10iP10iP20iPg10lC30ix4B0G00in320z310zc110Xd100zu210Xd100.k50
0_k500oa100vZ100Wl510u800ke430Xd100Yv200Xl540l210Wl500zH00_k590Wl530j500d110_k500tZ300pM00rm300jB00
_k500a300.H0EYl500qC04_k500XV00_k500YV01lD00Zl501_k500hU08_k500yH00w700yH01al500rd400sd430yk500te34
0gX200di520tw100to102gX200cw100vr300Xd100o501Xd100aV05Xd105wd100gb510_k5A0hb510bV00ib501ru200_g130_
k500yk5A0vg3Z10ic100wm200al100uo100to100en320to100en300jb500to120to110to110to100ei520to100rl100uo10
1.d100uo100bx200uo110en313uo110gX200to111to110te130ms310gs300cg370.d143uo170uo120su2F0tu200uu220yy2
50Wv200Xv210Yv200Wv201Yv262Yv210Yv200Zv203Yv200dH00Yv220qy451Yv200Wv201Yv200Wv210le421570bl530cl5F0
cl5B0cl5A0oA13f100000ub100000oC00dr210ab120ba110Zl100e650ca1P0r630nL30f2G0pCd10hW200xr390vL00yL01zL
10qL02hM00iM00da105vb1S00E0IW10xa510hf410xa5L0xa500if450hW2C0hf401if400hf401Zg3S0xp200kq2u10I50jf40
0kf4111C0_w1113C0m_1d50Kg50K11L10Zc110nE20ob120ia120el150ja1T0oL30g2Z20wL00_L01.L10rL02kM00lM00ka10
5ac1h10Ox10fu4J1fu4v20O50gu411F10dc110rE20pb120la180ma1T0pL30h2Z20xL00WM01XM10sL02nM00oM00na105ec11
8_100dl500km500000el510dl500fl520gl500hl510dl500il500jl510kl500ll500ml500nl500il510ol500pl500ql500r
l500sl510tl520ul500vl500wl500xl500yl500zl500_l500.l510dl520Wm500Xm520Ym500Zm500am520bm500cm5O1il500
dm520em592il501fm500gm500hm540im540jm500lm524jm500mm500nm503om510pm503om500qm505om500rm560sm500tm5J
00E0Ag50A19800010020um560um5R0um5y300E0Cg50C11550vm560vm5R0vm5h40Ag50A11550wm560wm5R0wm5h40Eg50E123
50xm560xm5R0xm51D500ym5100Y500E0Hg50H112q50Ag50A11100zm5112000B0eN113C0fNd50Ig50I121C0cr1113C0d7d50
Mg50M121C0g7113C0mr1d50Kg50K121C0po1113C0nm1d50Og50O121C0on2113C0pn2d50Qg50Q121C0vn2113C0sNd50Vg50V
113C0rn2d50Sg50S131C0uN11O10qf110uL20fe120.a100610030lZ510Wb130mZ510tw460nZ5F0wZ300yM00Xn320e3Z23rf
110bM03rf100Xb105rf1h10Xb5c30pe2Z20000dr3123C00d50tPg500111q50xP111q50nO111q50.P111q50WQ111q50uQ3Z1
d210kc110qg120qg101000tb100.Z100x710_840qg110iG60000jG0A030a500a200sw100010bN11000x300lG0E000w40400
0iZ100000jZ101tE00fh501018000iG00r700iG01cLC0_h520hf240Xb210qg100s501qg100lZ105qg105jf100wk5100A0rk
510mZ1700B0tm3Z10xf100gc230ve400of420ve490.h551ph110Wx220ve400ku4F0pa410Zb400bt370ph1Y10xZ330xn304v
g4N0rF30ha5J0lu400rf4121q50nR111q50eS111q50rS111q50sS111q50tS111q50.S111q50WT111q50XT111q50YT1H1q50
tP111q50xP111q50zw4111q50.P111q50WQ111q50uQ3G4j10du1Z50kW2U0pf4s30qf4121q50nR111q50eS111q50rS111q50
sS111q50tS111q50.S111q50WT111q50XT111q50YT3Q1j10Xm1311j10s_1311j10z_1311j10Y.1311j10Xc23F1j10Zc2321
j10xf2313B0z7X10mu1b84nv44b2f210pf110gf100_k510gf100eD10_a100qk100_k500_v100yH00za430gf100000yH40Z6
00_k5000B0_m540o610cb500XZ300xM00ag300z910c3G0052_k501yH00la5D0yH11qF00wa400xa440gn340eW234eW200c.1
13gf100.m50Bgf1000C6010_k5D0Xg3Z10of100ul200ro110eW200Ye520eW200Ye500000eW220eW210eW210eW200ra520eW
200un211of140Ye561eW211eW250hn311070of1Im1010020ix455010_a440Yg400Zg4412C0jq1uA0qu4411C0ar15e2U10Yd
120_k550uk120yH50050Wn5I0Xn570u2M2_k501Xl530Yn5A0yH90Zn540to130_W212to100zt120Xd120Wl565Xd1000C60F0
sl3j100R0to190hn3Tm1010020ix455051770.k530Wl5F0Wl5B0Wl5A0jB_10yX2m40ys3512n30zX2m40zs33h2a210bd110w
e120we101000ya100_Z100010Y940we110lE60mf400mE0A030d500Z210010vM11000d300wE0E014010011nF00fh50101800
0lE00a800lE01tD60rf340sb200We520rx112sb200sx110we100401we110we102.700W800we105Xe1200K00B0em3Z10ah10
0qu130yr330yr390Xe500nf441Xg110.w220yr350.e500sb2B0zr380Xg1P0q800h901nf400dg380sb4S0uDG0b8522n30WZ2
m40rt3512n30XZ2m40st3512n30ZZ2m40ut3512n30sZ2m40du3512n30_W2m40gs3362n60us1Z10Wb5371o90od43p2S71020
080yH60mf41A06003102E014010030fh501018031qFF0bw170342Y800Z8900K00Z20nf4T0zr3Y10q800h901nf400dg380sb
4j10b854V10nj110aj120aj120od100sk110Wl550aj110yH40a6I0k700Wl500ee510gO30o4G0081yH00fh520hUC1qF60yp3
80to140qo113aj11Baj1f20rk120Ye530Ye5F1ic140Ye5I1070ic151670eH31an5E0an5B0an550an5k20an5331o90ed4311
o90od4311o90wd4311o90Ye455M10qe110je120je100sF10ta100tk101_k550je170_k5000B0_k540l700_k520sM10XB10W
3Z23je10000Bje1w20.h5S0ct3o20_z4512W80hn3o20ix4577B1_k5D0_k5000B0_k550_k540XBf2004M570nC400Q0X1q200
e710412C0_k5Q0054J10tg110ng120ng100bl510qb110cl500050ng170000cl5B0cl550020YN10oA10o3Z23ng100Wl50Bng
1w20Xe55C4C00W100o60ct3o20_z4432W80ct3o20_z4465d10050000cb530z9h30_k5542W80ct3o20_z4471d10n141F10wf
110tf120tf100nG10Zb180tf1B0_k580080_M10dB10h3R0ji5d13tf11Btf1w20bk5412W80ct3o20_z4453C00H0_k5J0dB5D
4B1bn5D00C0050bn55E5C00G0cn500gA80050052G10Zi110vh120vh100dn510sc110Wl500050vh1K0tV50cl520yN10.B10d
4Z23vh11Bvh1w20.i558570vD30_k5F0_k5B0_k5q200512W80hn3o20ix4554C00Q0an5u60ct3o20_z45I5C00D0000_k5H00
40oA57370en531cl5W10cl556370qJ300X10_k5511d10XW1581d100543j100o60ZZ4o20uZ54MD10nh110mh120mh100zE10g
c111050mh1T0kN10uA10w3Z23mh11Bmh1w20ij5412W80ct3o20_z44K2B10b10uA583C00p70ra4o20ja55DG10zg110pg120p
g100YI10sb180pg1800B0080aN10pB10_3R0bi5d13pg11Bpg150_k5q20mi5512W80hn3o20ix45C4R00B00A0pBx20_k55R57
0eH300F00B0an5q200525B00H0cn500gAJ0jBx2005IE10Yi110uh120uh100xI10rc110060uh1800K0xN10vB10c4Z23uh11B
uh1w20ui55D3d100u60ct3o20_z454F10bi110xh120xh100iK10uc180xh1B0_k580080_N10bC10f4R0ri5d13xh11Bxh1w20
bj5532W80hn3o20ix45G1d1005K3B00F00M0vB513d10050_k540.B552W80hn3o20ix4592T1_k5J0bC51370jDM00J0jB3Z2z
110mc120xW350wZ100010W950WX350s2I0e200060t3G0qC50uW110vW101vEE0q730wa400xa440uf340Z.130b.112Z.100hu
120u520xW165dd100hk5C0Yf510yW100Zf501..200hh1F0nm3a10ee240cz430ci5L0050Z.190zY410ah400cg3Q0mz2F0lz2
00uW320jZ304000_W300.W310WX300_W301WX362WX310WX300XX303WX310WX320rZ551WX300_W301WX300_W381052170hE5
1170eG5F1d10052170uH51170oI51170hJ51170eH51170aK51170yK51170lF51170YH3X2m110nf110ie120ie120sa100Za1
20b940ie110iG60000jGE0a500d230rM30_200lGF0081aHD0iG00r700iG01cLC0_h520gk240of210ie100k501ie115ie105
kg1Z10vg3Z10xf100hX230Zk530Zk590.h500041xf110Wx220Zk550hc5C1070xf1P4080wg460ft320cc4I0rFG0le431f210
_c110ue120ue120xa100xZ120w800za430ue110hC40r220iCE0b500t120XZ300uM00ag320b300jCO1jE00la5C0hC00d800h
C01kC00wa400xa440kf340qx100ma520fw100eW202qx100gw110ue100l501ue115ue105yd1Z10yl3Z10Wg100Yt100ss100g
W200eW200sa520eW200sa510eW220eW210eW210eW200ra520eW200uv100gW201Wg100gW200yu200gW210sa513gW200000qx
100eW211eW2G0Wg143gW270gW2M0.p360Xv220Wv2I0lCG0_a43y1Z110zd110zh120zh120vc100Wa120.840zh1800G0b230.
N30.3G0081uEO0sf340jk230Zk212jk200oY210zh100_501zh115zh105cf1Z10hm3e10Zn330Zn3A0041hj140Zn360jk2B10
70hj1P4080et3j10le433W110Ze110_e120_e120za100Ya120_840_e1P0a230wM30n3P1tEO0te340gX230hf212gX200pa21
0_e100p501_e115_e105if1e20tW230bs330bs3F1ag140bs350000gX2K0ag1c10et360Xv220Wv23b2a110Ye110gg120gg12
0nb100yZ120x840gg1800G0X230XN30l3G0081pEO0nf340lq130gp112lq100ka210gg100n501gg115gg105hf1e20dy130Wi
530Wi5A0041ah140Wi550000lq1B1070ah1P4080pq3j10le434g110ce110lh120lh120fc100Xa120Z940lh110ZL70aLE0e5
00c230jN30v300jLO1gGD0ZL00k800ZL01bL60tf340sf200gj520tf212sf200ob210lh100y501lh115lh105mf1Z10jm3Z10
yh100nc230jj530jj590ij551yh110kx220jj560sf2K0yh1Z20yE36H10nc180yZ120y8U0X2X11kGO0nf340lq130gp112lq1
00ov1C5hd1e20wr1Z10000lq1x10pq360Xv220Wv235T10hg110aj120aj120od100zZ120z840aj1P0Y230gO30k4P1sEO0pf3
40nb230Yb212nb200Xk210aj100Y601aj115aj105dh1e20tk230Ye530Ye5F1ic140Ye560nb2K0ic1c10pq331Z110yf110sh
120sh120pc100aa120a940sh110kJ70lJE0h540vN30X400nJO1tID0kJ00n800kJ01hLC0ti570Yi210sh100.501sh115sh10
5ug1d20lj100fg230kk530kk590ui551lj110hx220kk5R0lj1Z20wI31Z110_f110th120th120qc130d940th110dK70eKE0i
540wN30Y400fKO1mJD0dK00o800dK01iLC0_i570Xj210th100W601th115th105wg1Z10lm3Z10mj100Zh230mk530mk590.i5
51mj110ix220mk5R0mj1Z20pJ39Z110gd110sf120sf120Yb130c940sf110eL70fLE0c540zM30g300lLO1wH00ji5C0eL00l8
00eL01xEC0ak570e.110sf100m501sf115sf105ge1d20vg100_u130ck530ck590bk551vg110lx220ck5R0vg1Z20mG35Z110
he110og120og120rb130e940og110rI70sIE0f540ZN30y300uIO1_H00bi5C0rI00m800rI01gLC0li570vd210og100z501og
115og105uf1d20qh100l.130ik530ik590mi551qh110cx220ik5R0qh1Z20XI35Z110.f110wh120wh120tc130f940wh110.K
70WLE0g540zN30Z400XLO1dL00ri5C0.K00p800.K01cHC0aj570Zj210wh100X601wh115wh105xg1d20oj100fi230nk530nk
590bj551oj110jx220nk5R0oj1Z20hK67e110pe120tF30fn510tk101fn500iG50050a600fn520fn590fn540l701fn540fn5
00.2H7fn501iG11fn518fn510iG90yp340to134to100dW220ie120065ie100010fn5A6030fn5B0sl3a10qs1800R0to190hn
3Tm1010020ix45507De110ve120rC30fn510qk101fn500hC50050Z600fn520fn5E0o610fn540fn500Y3H7fn501hC11fn518
fn510hC90gn340eW234eW200fW220ue120065ue100010fn5A6010fn510fn5B0Xg3a10ws1800R0eW290hn3Tm1010020ix455
071X110zf110sf100oG10sf120Yb120000eL40sf110eL70fL10fn5C0c540zM30f300lLO1eL00ji5C2eL01xEC0ak570yd213
sf11Bsf1d20vg100rv130ck530ck590bk551vg110lx220ck5R0vg1Z20mG63Y110fg110gg100wD10gg120nb120000lE40gg1
10lE50000fn500mEE0d510020XN30m300wEO1lED2lE01tDC0We570oe213gg11Bgg1d20ah100Xx130Wi530Wi590Xe551ah11
0.w220Wi5R0ah1Z20uD73V10oh110lh100_E10lh120fc111000ZL40lh110ZL70aLE0e540jN30u300jLO1ZLD2ZL01bLC0gj5
70rl213lh11Blh1d20yh100ld230jj530jj590ij551yh110kx220jj5R0yh1Z20yE62Y110yg110og100ZI10og120rb130rI4
0og110rI60000sIA0030f540ZN30z300uIO1rI00bi5C2rI01gLC0li570Yj213og11Bog150fn5X20qh100bW230ik530ik590
mi551qh110cx220ik5R0qh1Z20XI67b110ai120jK30fn510sk120.K50050a631fn5D0k710fn540fn500e4H7fn501.K11fn5
18fn510.K90yp340to134to100_m220wh120065wh100010fn5A6030fn5B0sl3a10.i2800R0to190hn3Tm1010020ix455064
W110Wi110sh100yI10sh120pc110010kJ40sh110kJ60000lJE0h540vN30a400nJO1kJD2kJ01hLC0ti570ym213sh11Bsh1d2
0lj100xh230kk530kk590ui551lj110hx220kk5R0lj1Z20wI61W110Xi110th100rJ10th120qc130dK40th110dK70eKA0030
i510fn520wN30b400fKO1dKD2dK01iLC0_i570zm213th11Bth1d20mj100.h230mk530mk590.i551mj110ix220mk5R0mj1Z2
0pJ6NF40fH20000fn5K0fn5G0fn530000fn52E017fn531fn518fn5k10fn5K0fn5m10kl200al12g5r110Xu210020000sF100
00_g101_k500se300uf430010_k540t200_k5010A0_k530000mO00_k512000XB10ab4000F0081fb500_k520sf490000ru20
0001_k500zd400_d440.r340_u200020.u200003_u201000ZV01015005ru2Z10vf4Z1901P010_u205030kb51P0p10030vx4
C0081570nCV0050040z9h30_k581470nG400H0_k5J0dB23670vD400D0000_k5H0040oA21570.k530Wl5F0Wl5B0Wl5A0jB25
5B0bn5000D00C0an550bn51Cd140010Yg110000_b140Xs320.f300wb100qe3600200G0000.Y300dN00Wg3100I70310180W1
0jM40xb160na510040oa500pa5C20A0sPA1iPP0_d2A0iP20iP10iPi10iP92iP00p610iP10iP10iP20iPx10Ys3112h50aRb1
0ie223H70en530cl5R0050cl560Xf4M0iZ110jZ1h10kZ120lZ1C0wk5C0rk510mZ1J0xw4p20rj5j10xZ330bn3W10ga512690
fc1b10wZ300lN00Xn3f70pe2a20zZ422q110ly220xW350hh110cl500mf350WX350x2I0eP00060pe4M0uW110vW101Xf5E0..
230jd400kd440qZ440yW330zW313yW320wW120xW165..200hk5C0Yf510yW100Zf501..200hh1F0jv4j10ci5R0yW390af5T0
mz2F0ky200WW320gX350_W300.W310WX300_W301WX362WX310WX300XX303WX310WX320yZ551WX300_W301WX300_W3122h50
sPb10_d211R60sg170va420pm300bc100vf3R0zZ300mN00dn3h20mM40cc160hj560gh500hh5P0gX4A1dW4P0zf2A0dW420dW
410dW4i10dW492dW400bf210dW410dW410dW420dW4x10ka4112h50jW4b10yf28D370zE310b10uA2C570YIJ00B00A0pBx20_
k52B470eH300X10040jB21370xIV0_k5A0vB21470qJV0050_k540.B21470iKM0_k5E0040bC241d1001k3T10xe120050sk12
0lE50050a6I0k770Z3M2001lEE0lE90yp340to130iW212to100jW220i220065we10J0F0sl3j100R0to190hn3T00FW101002
0ix4550112n60qu1Z10.e57AP01gn513gn511gn500L03gn51Agn511gn517gn510gn521gn510ub502gn512gn5GTgn540gn54
1gn52Agn51Cgn510gn541gn5C0gn510gn5AC010s6Mm40711k10vb5711k10gn571Y101in510in500hn501in500jn500hn501
in500hn502in51Ain510in500hn517in510in521in510hn502in510hn501in5G7hn502in501hn500in508hn506in540in54
1in52Ain51Cin510hn541in5C0nN10hn5O001i3T10Yd120050uk120yH50050a6I0m770u2M2001yHE0yH90yp340to130fa21
2to100zt120q220065Xd10J0F0sl3j100R0to190hn3T00FW1010020ix4550113R0kh4e60mz4Y21mz4111R0Yi4113R0lp3e6
0iu4Y21iu4113R0ll3e60iv4Y21iv4131R0np3111R0op3111R0nl3111R0ol31i4V10rg120050sk100u710iG50050a6I0k70
0yv160p3G0pC52001iGE0iG90yp340to134to100Xi220qg120065qg10J0F0sl3j100R0to190hn320cg3Qm1010020ix45507
BX101ln510ln500kn501ln500000kn501ln500kn502ln51Aln510ln500kn517ln510ln521ln510kn502ln510kn501ln5G7k
n502ln501kn500ln508kn506ln540ln541ln52Aln51Cln510kn541ln5C0kn510kn571J01mn513mn516mn51Amn511mn517mn
510mn521mn513mn512mn5GTmn540mn541mn52Amn51Cmn510mn541mn5C0mn510mn5131n60sW272J01nn513nn516nn51Ann51
1nn517nn510nn521nn513nn512nn5GTnn540nn541nn52Ann51Cnn510nn541nn5C0nn510nn571W101pn510pn500on501pn51
0on501pn500on502pn51Apn510pn500on517pn510pn521pn510on502pn510on501pn5G7on502pn501on500pn508on506pn5
40pn541pn52Apn51Cpn510on541pn5C0xQ10on571J01qn513qn516qn51Aqn511qn517qn510qn521qn513qn512qn5GTqn540
qn541qn52Aqn51Cqn510qn541qn5C0qn510qn571J01rn513rn516rn51Arn511rn517rn510rn521rn513rn512rn5GTrn540r
n541rn52Arn51Crn510rn541rn5C0rn510rn571W101tn510tn500sn501tn510sn501tn500sn502tn51Atn510tn500sn517t
n510tn521tn510sn502tn510sn501tn5G7sn502tn501sn500tn508sn506tn540tn541tn52Atn51Ctn510sn541tn5C0qR10s
n571W101vn510vn500un501vn510un501vn500un502vn51Avn510vn500un517vn510vn521vn510un502vn510un501vn5G7u
n502vn501un500vn508un506vn540vn541vn52Avn51Cvn510un541vn5C0rR10un571W101xn510xn500wn501xn510wn501xn
500wn502xn51Axn510xn500wn517xn510xn521xn510wn502xn510wn501xn5G7wn502xn501wn500xn508wn506xn540xn541x
n52Axn51Cxn510wn541xn5C0vR10wn571W101zn510zn500yn501zn510yn501zn500yn502zn51Azn510zn500yn517zn510zn
521zn510yn502zn510yn501zn5G7yn502zn501yn500zn508yn506zn540zn541zn52Azn51Czn510yn541zn5C0YS10yn51D1R
0072W101.n510.n500_n501.n510_n501.n500_n502.n51A.n510.n500_n517.n510.n521.n510_n502.n510_n501.n5G7_
n502.n501_n500.n508_n506.n540.n541.n52A.n51C.n510_n541.n5C0fS10_n571W101Xo510Xo500Wo501Xo510Wo501Xo
500Wo502Xo51AXo510Xo500Wo517Xo510Xo521Xo510Wo502Xo510Wo501Xo5G7Wo502Xo501Wo500Xo508Wo506Xo540Xo541X
o52AXo51CXo510Wo541Xo5C0gS10Wo571W101Zo510Zo500Yo501Zo510Yo501Zo500Yo502Zo51AZo510Zo500Yo517Zo510Zo
521Zo510Yo502Zo510Yo501Zo5G7Yo502Zo501Yo500Zo508Yo506Zo540Zo541Zo52AZo51CZo510Yo541Zo5C0hS10Yo571W1
01bo510bo500ao501bo510ao501bo500ao502bo51Abo510bo500ao517bo510bo521bo510ao502bo510ao501bo5G7ao502bo
501ao500bo508ao506bo540bo541bo52Abo51Cbo510ao541bo5C0nS10ao571W101do510do500co501do510co501do500co5
02do51Ado510do500co517do510do521do510co502do510co501do5G7co502do501co500do508co506do540do541do52Ado
51Cdo510co541do5C0oS10co571W101fo510fo500eo501fo510eo501fo500eo502fo51Afo510fo500eo517fo510fo521fo5
10eo502fo510eo501fo5G7eo502fo501eo500fo508eo506fo540fo541fo52Afo51Cfo510eo541fo5C0uS10eo571W101ho51
0ho500go501ho510go501ho500go502ho51Aho510ho500go517ho510ho521ho510go502ho510go501ho5G7go502ho501go5
00ho508go506ho540ho541ho52Aho51Cho510go541ho5C0zS10go571J01io513io516io51Aio511io517io510io521io513
io512io5GTio540io541io52Aio51Cio510io541io5C0io510io57VA40in520003in5H0in5G0in540in5IMin5k10in5I0f7
10in571J01jo513jo516jo51Ajo511jo517jo510jo521jo513jo512jo5GTjo540jo541jo52Ajo51Cjo510jo541jo5C0jo51
0jo571J01ko513ko516ko51Ako511ko517ko510ko521ko513ko512ko5GTko540ko541ko52Ako51Cko510ko541ko5C0ko510
ko5711_40i771J01lo513lo516lo51Alo511lo517lo510lo521lo513lo512lo5GTlo540lo541lo52Alo51Clo510lo541lo5
C0lo510lo571J01mo513mo516mo51Amo511mo517mo510mo521mo513mo512mo5GTmo540mo541mo52Amo51Cmo510mo541mo5C
0mo510mo571J01no513no516no51Ano511no517no510no521no513no512no5GTno540no541no52Ano51Cno510no541no5C0
no510no51P4j10Zr1Z50gc2U0ku4s30lu4111j10iq1111j10eu1111j10kf2111j10ak21d2Z110eg110dg100010dg110000d
b100wk100X860dg1A00E0o700mW400010WN20000k3G0qC070310180P0Wk213dg11Bdg12L0m10mk230ax400of420ax4F1rh1
40ax4I0Zb400cg370rh1y10xc5V0rf49m2J40030021oo5D0oo52A040oo5010400I4000oo500000oo5310180k10010oo5F1o
o5100m10os1115Q00I0oo5i10oo5X10oo5W1101OBB0X8X10og3Z20to170Xd143Xd1q20ju4D00T0Xd4Y140s10le470mu413S
10cg110bg120bg120bb100vk101040qg300cb100rg360lOH0n730.M30j3M20e10Ze213bg11Bbg14H0N1i9H0i960.g100zW2
30kg430kg4F1.g140kg450Wc5L0.g1167B0po5X10po5Z50ae240ly4P0og4H0pg4a31016B10ch110bh120bh120.b180bh1T0
iN30s3Z23bh11Bbh1e20dj2s3001j2K40030020oo5F0oo5100E1oo5000400I4000oo500000oo531015000oo5010k10010oo
5I00m10il2131j10qo5164j10mW4e50of4h10Zb4b30rf4121j10ro5174s51n9H0n970zd2Z10tk55p5L10so510so520so521
so521so530so510so540so520so5E1so522so521so5F0so582so520so596so540so541so52Aso51Bso5Z1q5051K10to510t
o520to521to521to530to510to540to520to5E1to522to521to5F0to582to520to596to540to541to52Ato51Bto5155B0uo
5X10uo5e50ly4h10pg4b30053570.k530Wl5F0Wl5B0Wl5A0jB53570.k530Wl5F0Wl5B0Wl5A0jB1z2K40030020oo5F0oo51A
040oo5100400I4000oo500000oo531015000oo5010k10010oo5I00m10.w11d19l10bZ3X20.W270k2g300T0hs3Y10s800k90
20s10vd112AB0X9F0Zt1G0l7O0mD520C00o100Z20kX2U0_g4s30.g41Y3L40030020oo5000D00200E0oo5100400I4000oo50
0000oo531015000oo5010k10010oo5G20m10ts1124R0bl1r50oc2U0Wv4s30Xv4114R0lUr50ed2U0qv4s30rv4114R0dk2r50
fd2U0Ww4s30Xw4114R0_z2r50gd2U0ew4s30fw4114R0mY3r50hd2U0nw4s30ow4114R0gf3r50id2U0qw4s30rw41c3K400300
20oo5E00200E0oo5100400I4000oo500000oo531015000oo5010k10010oo5G20m10jd21f3K40030020oo5E00210D0oo5100
400I4000oo500000oo531015000oo5010k10010oo5G20m10pv11d3J40030020oo5H00E0oo5100400I4000oo500000oo5310
15000oo5010k10010oo50I0m10ZW21c3J40030020oo5HA040oo5100400I4000oo500000oo531015000oo5010k10010oo5I0
0m10vh21c3J40030020oo5H00E0oo5010400I4000oo500000oo531015000oo5010k10010oo5I00m10zh21f3J40030020oo5
H10D0oo5100400I4000oo500000oo531015000oo5010k10010oo5I00m10zi21J8B00X100Z20_W270j270Z8q200h10gs3Z10
j91O7B00X100N0qCh40ee240cz4P00H0ah4124n30_X270n2e40_s3Z10m91Z1AB0vo5000D00H0l700vo5N0oF520.1H0o10ae
2U0og41UE10bf1900F00G0k7000T20C00M0lY2R00U0Yh3q40ct200dt200Zu200av21O4B00X100e50cz4h10ah41JC10lc190
0W10o6U20C00M0Xz1R00U0Wm3q40ct200dt200Zu200av21ND10cd1900F00G0l7U20C00M0Wm1R00U0fm3q40ct200dt200Zu2
00av21e1C10hc1910D00H0l7U20Z10Wm1RH0D0Yh3q40ct200dt200Zu200av215310vf1l30Wm1w10im312210ed1l30pf2122
10ne1l30pf212710Yc1l30r_1w10om3q40ou200pu200oz200ZX31K5B0vo5F0vo5r50uh2U0og4s30017210sd1l30lY21LC10
id1900W10o6U20C00M0Xz1R00U0km3q40ct200dt200Zu200av21JC10ke1900W10l7U20C00M0Wm1R00U0im3q40ct200dt200
Zu200av217210oe1l30lY21NC10oc1900W10o6U20C00M0Xz1R00U0Wm3q40ct200dt200Zu200av21LC10le1900W10l7U20C0
0M0Wm1R00U0mm3q40ct200dt200Zu200av21OC10ld1900W10l7U20C00M0Wm1R00U0Yh3q40ct200dt200Zu200av21MC10me1
900W10k7U20C00M0Wm1R00U0im3q40ct200dt200Zu200av29Z19B00E0oPH0o6U20C00o100G0oPo10wv1Z10rx41N2X40Xd1a
5001L8B00E0lOI00N00Z40q970xX2U0040wc5123n30yX270m2e40ys3113n30.X270o2e40.s3133f60s970.Y2Z10dd5123n3
0YZ270p2e40tt3123f60u970wd2Z10yj5113f60w970xd2Z10Xk51QN10.h110_h120_h120wc100vk160Yo300.c100Zo3O0n7
30WO30W4G00m10xm213_h11B_h1d20ij140Yx400020Yx4F1ij140Yx4I1070ij11J6B00F0f1f100h40_Y2U0040cd5113R0h1
r50qZ2Z10jd5113R0i1r50rZ2Z10kd5113R0l1r50aa2Z10.d5113R0v1r50od2Z10vh5113R0x1r50qd2Z10xh5113R0y1r50r
d2Z10yh5113R0.1r50td2Z10zh51I4Q00Z400o10xv1Z10sx4114A07k50rW2N0zs1Z100133R00r50nu1Z10ae51l17B00W10l
7U20C00o100Z20YX2a20pb41E4Q00k50070hX2Z10hc5142v50jX2N0Xt1122n60nX2Z10lc5122v50pX2N0lt11TE10Xh110Wh
120Wh120yb180Wh1T0gN30q3y10to163Wh11BWh1Z10sl3a10mk2l33030xc5122v50cY2N0ot1112v50eY2N0pt1112v50fY2N
0qt1162n60pY2Z10Wd5112n60xY2Z10Zd51C2n60yY2Z10ad5112n60zY2Z10bd518A10Zh110Yh120Yh120zb180Yh1T0hN30r
3Z23Yh11BYh1.50ed51E1s80ei4132n60pZ2Z10id5112n60Xa2Z10yd5112n60Ya2Z10zd5112n60Za2Z10_d5114A08k50_o1
N0ix1Z100112v50ep1N0cy1112v50ip1N0py1112v50qp1N0ry1112v50sp1N0sy1112v50tp1N0ty11g28A07000W10o6U20C0
0o100h10rW2N0ic2182n60su1Z10xf5122v50jX2N0mc21I2n60qc2Z10ve5122v50pX2N0.c2112v50cY2N0Xd2112v50eY2N0
Yd2112v50fY2N0Zd2152n60cd2Z10ye5114A08k50_o1N0rr1Z100112v50ep1N0vr1112v50ip1N0cs1112v50qp1N0es1112v
50sp1N0fs1112v50tp1N0gs11u28A07000W10o6U20C00o100h10rW2N0vu1112v50jX2N0zu1112v50pX2N0gv1112v50cY2N0
iv1112v50eY2N0jv1112v50fY2N0kv11k2710nj1809c30to1w10sl3C0_o1N0ok2l330112v50ep1N0sk2112v50ip1N0Zl211
2v50qp1N0bl2112v50sp1N0cl2112v50tp1N0dl21c14A08k50_o1N0g.1a200112v50ep1N0k.1112v50ip1N0x.1112v50qp1
N0z.1112v50sp1N0_.1112v50tp1N0..11e38A08000W10l7U20C00o100h10_o1N0ag2112v50ep1N0eg2112v50ip1N0rg211
2v50qp1N0tg2112v50sp1N0ug2112v50tp1N0vg21j38A08000W10l7U20C00o100h10_o1N0_g2112v50ep1N0Yh2112v50ip1
N0lh2112v50qp1N0nh2112v50sp1N0oh2112v50tp1N0ph21o38A09000W10k7U20C00o100h10_o1N0ai2112v50ep1N0ei211
2v50ip1N0ri2112v50qp1N0ti2112v50sp1N0ui2112v50tp1N0vi21l22n60ts1Z100111n60vs11RJ10di110ci120ci120xc
100sk170ci1T0XO30g4X20.m213ci11Bci1m100M0pj100wm230db530db5F1pj140db5R0pj1121n60xs1111n60ys1111n60q
W2111n60_s14fAz112000ef400q500ff400cD00ta500jn300WZ320000ua520.f300Yg300qe300_k540wo5200E0000_k510_
k500va500wa500jx4210O2_k520wo592001_k501040_k549013010wp203000kn305000na560oa500pa5L0kx400ya420jP00
091iPOB000iP10000iP00000iP0O05B020iP13042iP00kP10iP10iP10iP20iPg140C0wr31_3J10Zg110_e120_e120za180_
e1T0wM30i3G00m10We213_e11B_e1e20tW230bs300020bs3F1ag140bs3I1070ag11x3I10ad110Zd120Zd120pa180Zd1T0qM
30v2G00m10Xu113Zd11BZd1i20Zn300020Zn3F1We140Zn3I1070We1141n60.s1111n60Wt1111n60Yt11Q3A0tk1k500N0cj2
121n60at1111n60mX2111n60bt1111n60ct1111n60dt1111n60et1111n60ft1111n60gt1111n60ht1111n60it1111n60jt1
111n60kt1111n60mt1111n60iw11Z13A0tk1k500N0dj2121n60jw1111n60kw1111n60lw1111n60wX21i22n60XY2Z100121n
60rt1111n60st11z14A0sk1Y30mY2h200N0il21t22n60th2Z100151n60je2111n60ke21q23A0qk1k500N0ne2161n60yt113
1n60ee2121n60zw1171n60gx1111n60hx1111n60jx1111n60lx1111n60by1111n60dy1111n60ey1111n60te2111n60fy111
1n60gy1111n60hy1111n60iy1111n60jy1111n60ky1111n60ly1111n60my1111n60ny1111n60oy1111n60qy1111n60ve211
1n60uy1111n60vy11Y21j30Yz1121n60e_1111n60.w1111n60Wx14.12C0jq1uA0qu41c33A0qk1k500N0o_1141j30Ym11g23
A0sk1k500N0Yk2441C0ar11d11j30Ym11Y12j30qf2Z30os1121j30qf2121j30t_11j2G10ii110hi120hi120fd180hi1T0bO
30i4X20tn213hi11Bhi1d20qj140fe530fe5F1qj140fe5R0qj1191n60sv11f11n60hc2111n60jc2111n60kc2111n60lc211
1n60nc21f21n60lk2121n60pc2111n60rc2111n60sc2111n60tc2111n60uc2111n60vc2111n60wc2111n60xc2111n60yc21
11n60zc2111n60_c2111n60Wd21d21n60mk2121n60ad2111n60bd21U1j30mY21z11n60tW2131n60dd21S2j30to1Z30ll213
1n60qr1111n60sr1111n60tr1111n60ur1111n60wr1111n60xr1111n60pu1111n60yr1111n60zr1111n60_r1111n60.r111
1n60Ws1111n60Xs1111n60Ys1111n60Zs1111n60as1111n60bs1111n60ds1111n60_f2111n60hs1111n60is11N2j30Yz1Z3
0jd2121n60js1111n60os1111n60ps1121j30Ym11r1G10zi110yi120yi120jd180yi1T0cO30j4X20wn213yi11Byi1d20rj1
40ai530ai5F1rj140ai5R0rj11r11n60uu1111n60wu1111n60xu1111n60yu1111n60_u11q11n60hl2121n60.u1111n60Wv1
111n60Xv1111n60Yv1111n60Zv1111n60av1111n60bv1111n60cv1111n60dv1111n60ev1111n60fv1111n60hv1111n60lv1
111n60mv11M1j30mY2121n60nv11o21n60Wj21p11n60nk2111n60pk2111n60qk2111n60rk2111n60tk2111n60uk2111n60v
k2111n60wk2111n60xk2111n60yk2111n60zk2111n60_k2111n60.k2111n60Wl2111n60Xl2111n60Yl2111n60al2111n60e
l2111n60fl21L2j30Yz1Z30pv1121n60gl2111n60il2111n60jl21n73j30Ym1Z30ZW2a2001m1G10.i110_i120_i120kd180
_i1T0dO30l4X20xn213_i11B_i1d20sj140ii530ii5F1sj140ii5R0sj11h11n60ml21q72n60f.1a200111n60h.1111n60i.
1111n60j.1111n60l.1111n60m.1111n60n.1111n60o.1111n60p.1111n60q.1111n60r.1111n60s.1111n60t.1111n60u.
1111n60v.1111n60w.1111n60y.1111n60WW2111n60XW2111n60YW2111n60ZW2111n60aW21N2j30Ym1Z30vh21PG10Xj110W
j120Wj120md180Wj1T0eO30m4X20yn213Wj11BWj1d20tj140qi530qi5F1tj140qi5R0tj11P1n60nl2111n60Zg2111n60bg2
111n60cg2111n60dg2111n60fg2111n60gg2111n60hg2111n60ig2111n60jg2111n60kg2111n60lg2111n60mg2111n60ng2
111n60og2111n60pg2111n60qg2111n60sg2111n60wg2111n60xg2111n60yg2111n60vh2111n60wh21Y42j30Ym1Z30zh21P
G10Zj110Yj120Yj120nd180Yj1T0fO30n4X20zn213Yj11BYj1d20uj140yi530yi5F1uj140yi5R0uj1131n60ol21b41n60zg
2111n60.g2111n60Wh2111n60Xh2111n60Zh2111n60ah2111n60bh2111n60ch2111n60dh2111n60eh2111n60fh2111n60gh
2111n60hh2111n60ih2111n60jh2111n60kh2111n60mh2111n60qh2111n60rh2111n60sh2111n60zh2111n60_h21OG10cj1
10bj120bj120pd180bj1T0hO30p4X20_n213bj11Bbj1d20vj140Zj530Zj5F1vj140Zj5R0vj11O1n60pl21b31n60Zi2111n6
0bi2111n60ci2111n60di2111n60fi2111n60gi2111n60hi2111n60ii2111n60ji2111n60ki2111n60li2111n60mi2111n6
0ni2111n60oi2111n60pi2111n60qi2111n60si2111n60wi2111n60xi2111n60yi2111n60zi2111n60_i21OG10ej110dj12
0dj120qd180dj1T0iO30q4X20.n213dj11Bdj1d20wj140fj530fj5F1wj140fj5R0wj11O1n60ql21v41j30eW2111n60kd211
1n60md21v41n60rs1181j30Ym11k31j30eW2111n60qv11q21n60cW2191n60yh21a11n60Wi21CG10gj110fj120fj120rd180
fj1T0jO30r4X20Wo213fj11Bfj1d20xj140oj530oj5F1xj140oj5R0xj1131n60sl212G10kj110jj120jj120td180jj1T0kO
30s4X20Xo213jj11Bjj1d20yj140gk530gk5F1yj140gk5R0yj1121n60tl28.8b110gb410fb400xo500000fb400eD00_k500
fb400033000fb400050yo5I0zo520000fb400fg320fb4U0_o5E0zd400_d491qn380001fb401lo21Bfb4000610Lw1010bb5I
0qn350030hn361qn35M0k10ix4C00812C0jq1uA0qu4811C0ar18Y9A40_k500000lb500eD00_k5100t30hg3C0wx4N1020pP8
12C0jq1uA0qu4811C0ar14Y7770mC400C0_k5D0X1h10_k5e100e71041250v5X10n188K10pn310pn320pn320pn380pn360wo
5M0mo200020pn3U0wo5a10pn300no201yo213pn300lq206pn3w200S00b10mq2i100812C0jq1uA0qu4811C0ar1833v30pn37
0pn3a50081340_k5h10pn3f21pn3822C0jq1uA0qu4822C0jq1uA0qu4821C0ar1821C0ar18C770nC400C0_k5D0X1h10_k5e1
00e7101zEJ40020io50006Cio510090io550io500030io5000I40100410150110V0io5E0010io5G201yEJ40020jo50006Cj
o510090jo550jo500030jo5000I40100410150110V0jo5E0010jo5G20831d10n112K01.o510.o512.o515.o50000C.o529.
o522.o513.o511.o5L0.o513.o520.o560.o526.o540.o541.o52O.o530.o521.o511J01Wp510Wp512Wp515Wp51CWp529Wp
522Wp513Wp511Wp5L0Wp513Wp520Wp560Wp526Wp540Wp541Wp52OWp530Wp521Wp511J01Xp510Xp512Xp515Xp51CXp529Xp5
22Xp513Xp511Xp5L0Xp513Xp520Xp560Xp526Xp540Xp541Xp52OXp530Xp521Xp511J01Yp510Yp512Yp515Yp51CYp529Yp52
2Yp513Yp511Yp5L0Yp513Yp520Yp560Yp526Yp540Yp541Yp52OYp530Yp521Yp511J01Zp510Zp512Zp515Zp51CZp529Zp522
Zp513Zp511Zp5L0Zp513Zp520Zp560Zp526Zp540Zp541Zp52OZp530Zp521Zp58ED10so511so510so520so580so5P0so530s
o530so5j11so591so593so51Bso5j3I081C10to511to510to520to580to5P0to530to530to5j11to591to593to51Bto5884
70zE300R00A0uA832C0jq1uA0qu4832C0jq1uA0qu483S60sj520zp340ok520pm300qm300vf3R0ih500pk500ba5h20cq240u
l360hj550nW500gh500hh5P0gW4A1dW4a10dW420dW410dW4i10dW492dW400fW410dW410dW410dW420dW4x10oa4831C0ar18
31C0ar12W1T10gi510fi500_k510fi500.k510fi511Wl550fi560ap500000Wl5B0Wl540_k500Wl520fi500sm300jB10fi5U
0bp5E1091093fi500Wl50Bfi5L00a20hi5I00G10y21021670eH31an5E0an5B0an550an5k20an521I10Yi510Xi520Xi500sF
10Xi511_k550Xi570_k5000B0_k550_k520Xi510XB10Xi5Z23Xi50000BXi5w20Zi521170eH81H10ab510Zb520Zb500nC10Z
b520050Zb5K0X150020Zb500fg300z910Zb5Z23Zb51BZb5L0_k5a20bb5813C0_k5Q0090lg326H10ce510be520be500bl510
be510cl500050be580cl5B0cl550020be510oA10be5Z23be51Bbe5w20de5254B1bn5D00C0an550bn583170eH852d10n190Y
n382E10ek510dk520dk500nG10dk520050dk5B0_k5H0dk510dB10dk5Z23dk51Bdk5w20fk581170eH2A5C00G0cn500gA8005
0026G10Xj510Wj520Wj500dn510Wj510Wl500050Wj5K0tV50cl520Wj510.B10Wj5Z23Wj51BWj5w20Yj528570vD30_k5F0_k
5B0_k5q20021170eH51G10oi510ni520ni500YI10ni500_k570ni5800B0080ni510pB10ni5Z23ni51Bni550_k5q20pi5511
70eH2B470en531cl5Q0050cl51yAQ01cp510cp511cp521cp512cp51Acp510cp527cp510cp500ng400ky401cp522cp521cp5
O2cp520cp596cp540cp541cp52Acp51Ccp561cp5QD0K0YO00XQ0m408GE10mj510lj520lj500zE10lj510060lj5K0080lj51
0uA10lj5Z23lj51Blj5w20nj59_FC400300K00B1ko5300400I70310180k100I0oN1009YGC400300K00B1in5300400I70310
180k100I0nN1002A370qJ300X10_k5211d10XW12C1d100861n10lg381170eH821n10Yn3811n10fn3191_4001cGB400300K0
0B1mo5300400I70310180k100I209eGB400300K00G00400I70310180k100H0lo52009dGB400300K00G00400I70310180k10
0H0no5200942f110o31ko59D3f110o30in500rN952f110o31mo5931_40tN2NE10wi510vi520vi500xI10vi510060vi5800K
0vi510vB10vi5Z23vi51Bvi5w20xi52F1d10022170eH22170eH21E10dj510cj520cj500iK10cj580cj5B0_k5E0020cj510b
C10cj5Z23cj51Bcj5w20ej521170eH2h14B10E00H00k200213T0cn500gA80022270jDV001SN01dp510dp511dp521dp512dp
51Adp510dp527dp510dp500011dp522dp521dp5O2dp520dp596dp540dp541dp52Adp51Cdp561dp5y10000wQ1yHD40030010
J000H00G0le5400I70310180k100I20O0aT111k10me524170hE21170eG21170uH21170oI21170hJ21170eH21170aK21170y
K21170lF21170YH1.2K01ep510ep511ep521ep512ep51Cep527ep510ep521ep522ep521ep5O2ep520ep596ep540ep541ep5
2Aep51Cep561ep5Qq50AwIJ10w_251020cc5800800F0bv20502E000v4040100320180310f100K00Y30ry4k10xn304vg412O
01fp510fp511fp521fp512fp514fp500e104fp500000fp527fp510fp521fp522fp521fp5O2fp520fp596fp540fp541fp52A
fp51Cfp561fp5e10sQ9xHB400300200H00G00400I70310180k100K0091M01gp510gp511gp521gp512gp519gp500pR10gp52
7gp510gp521gp522gp521gp5O2gp520gp596gp540gp541gp52Agp51Cgp561gp5C0pR11L01hp510hp511hp521hp512hp51Ah
p510hp527hp510hp512hp522hp521hp5O2hp520hp596hp540hp541hp52Ahp51Chp561hp5C009xHB400300200H00G00400I7
0310180k100K009xHB400300200H00G00400I70310180k100K009xHB400300200H00G00400I70310180k100K009xHB40030
0200H00G00400I70310180k100K009wHB400300200H00G00400I70310180k100K009wHB400300200H00G00400I70310180k
100K009wHB400300200H00G00400I70310180k100K009wHB400300200H00G00400I70310180k100K009wHB400300200H00G
00400I70310180k100K009wHB400300200H00G00400I70310180k100K009wHB400300200H00G00400I70310180k100K001C
K01ip510ip511ip521ip512ip51Aip510ip527ip510ip512ip522ip521ip5O2ip520ip596ip540ip541ip52Aip51Cip561i
p511K01jp510jp511jp521jp512jp51Ajp510jp527jp510jp512jp522jp521jp5O2jp520jp596jp540jp541jp52Ajp51Cjp
561jp51U1k1001hIA400300200H00L00I70310180k100I201hIA400300200H00L00I70310180k100I2096L01kp510kp511k
p521kp512kp51Akp510kp527kp510kp521kp522kp521kp5O2kp520kp596kp540kp541kp52Akp51Ckp561kp5C0kp591L01lp
510lp511lp521lp512lp51Alp510lp527lp510lp521lp522lp521lp5O2lp520lp596lp540lp541lp52Alp51Clp561lp5C0l
p5AN3B0oe5X10tx1b84xu4A13B0ef5X10aX3b84nv4A13B0ag5X10sm1b84zv4A13B0qg5X10uc3b84bw415L01mp510mp511mp
521mp512mp51Amp510mp527mp510mp521mp522mp521mp5O2mp520mp596mp540mp541mp52Amp51Cmp561mp5C001vIB400300
200H00G00400I70310180k100I2011K01np510np511np521np512np51Anp510np527np510np521np522np521np5O2np520n
p596np540np541np52Anp51Cnp561np512011K01op510op511op521op512op51Aop510op527op510op521op522op521op5O
2op520op596op540op541op52Aop51Cop561op511K01pp510pp511pp521pp512pp51App510pp527pp510pp521pp522pp521
pp5O2pp520pp596pp540pp541pp52App51Cpp561pp511K01qp510qp511qp521qp512qp51Aqp510qp527qp510qp521qp522q
p521qp5O2qp520qp596qp540qp541qp52Aqp51Cqp561qp511K01rp510rp511rp521rp512rp51Arp510rp527rp510rp521rp
522rp521rp5O2rp520rp596rp540rp541rp52Arp51Crp561rp511K01sp510sp511sp521sp512sp51Asp510sp527sp510sp5
21sp522sp521sp5O2sp520sp596sp540sp541sp52Asp51Csp561sp511K01tp510tp511tp521tp512tp51Atp510tp527tp51
0tp521tp522tp521tp5O2tp520tp596tp540tp541tp52Atp51Ctp561tp511K01up510up511up521up512up51Aup510up527
up510up521up522up521up5O2up520up596up540up541up52Aup51Cup561up511K01vp510vp511vp521vp512vp51Avp510v
p527vp510vp521vp522vp521vp5O2vp520vp596vp540vp541vp52Avp51Cvp561vp511K01wp510wp511wp521wp512wp51Awp
510wp527wp510wp521wp522wp521wp5O2wp520wp596wp540wp541wp52Awp51Cwp561wp511K01xp510xp511xp521xp512xp5
1Axp510xp527xp510xp521xp522xp521xp5O2xp520xp596xp540xp541xp52Axp51Cxp561xp511K01yp510yp511yp521yp51
2yp51Ayp510yp527yp510yp521yp522yp521yp5O2yp520yp596yp540yp541yp52Ayp51Cyp561yp511K01zp510zp511zp521
zp512zp51Azp510zp527zp510zp521zp522zp521zp5O2zp520zp596zp540zp541zp52Azp51Czp561zp511K01_p510_p511_
p521_p512_p51A_p510_p527_p510_p521_p522_p521_p5O2_p520_p596_p540_p541_p52A_p51C_p561_p511K01.p510.p
511.p521.p512.p51A.p510.p527.p510.p521.p522.p521.p5O2.p520.p596.p540.p541.p52A.p51C.p561.p511K01Wq5
10Wq511Wq521Wq512Wq51AWq510Wq527Wq510Wq521Wq522Wq521Wq5O2Wq520Wq596Wq540Wq541Wq52AWq51CWq561Wq511K0
1Xq510Xq511Xq521Xq512Xq51AXq510Xq527Xq510Xq521Xq522Xq521Xq5O2Xq520Xq596Xq540Xq541Xq52AXq51CXq561Xq5
11K01Yq510Yq511Yq521Yq512Yq51AYq510Yq527Yq510Yq521Yq522Yq521Yq5O2Yq520Yq596Yq540Yq541Yq52AYq51CYq56
1Yq511K01Zq510Zq511Zq521Zq512Zq51AZq510Zq527Zq510Zq521Zq522Zq521Zq5O2Zq520Zq596Zq540Zq541Zq52AZq51C
Zq561Zq511K01aq510aq511aq521aq512aq51Aaq510aq527aq510aq521aq522aq521aq5O2aq520aq596aq540aq541aq52Aa
q51Caq561aq511K01bq510bq511bq521bq512bq51Abq510bq527bq510bq521bq522bq521bq5O2bq520bq596bq540bq541bq
52Abq51Cbq561bq511K01cq510cq511cq521cq512cq51Acq510cq527cq510cq521cq522cq521cq5O2cq520cq596cq540cq5
41cq52Acq51Ccq561cq511K01dq510dq511dq521dq512dq51Adq510dq527dq510dq521dq522dq521dq5O2dq520dq596dq54
0dq541dq52Adq51Cdq561dq511K01eq510eq511eq521eq512eq51Aeq510eq527eq510eq521eq522eq521eq5O2eq520eq596
eq540eq541eq52Aeq51Ceq561eq511K01fq510fq511fq521fq512fq51Afq510fq527fq510fq521fq522fq521fq5O2fq520f
q596fq540fq541fq52Afq51Cfq561fq511K01gq510gq511gq521gq512gq51Agq510gq527gq510gq521gq522gq521gq5O2gq
520gq596gq540gq541gq52Agq51Cgq561gq511K01hq510hq511hq521hq512hq51Ahq510hq527hq510hq521hq522hq521hq5
O2hq520hq596hq540hq541hq52Ahq51Chq561hq51J011K01iq510iq511iq521iq512iq51Aiq510iq527iq510iq521iq522i
q521iq5O2iq520iq596iq540iq541iq52Aiq51Ciq561iq511011K01jq510jq511jq521jq512jq51Ajq510jq527jq510jq52
1jq522jq521jq5O2jq520jq596jq540jq541jq52Ajq51Cjq561jq512011K01kq510kq511kq521kq512kq51Akq510kq527kq
510kq521kq522kq521kq5O2kq520kq596kq540kq541kq52Akq51Ckq561kq511K01lq510lq511lq521lq512lq51Alq510lq5
27lq510lq521lq522lq521lq5O2lq520lq596lq540lq541lq52Alq51Clq561lq511K01mq510mq511mq521mq512mq51Amq51
0mq527mq510mq521mq522mq521mq5O2mq520mq596mq540mq541mq52Amq51Cmq561mq511011K01nq510nq511nq521nq512nq
51Anq510nq527nq510nq521nq522nq521nq5O2nq520nq596nq540nq541nq52Anq51Cnq561nq511K01oq510oq511oq521oq5
12oq51Aoq510oq527oq510oq521oq522oq521oq5O2oq520oq596oq540oq541oq52Aoq51Coq561oq511K01pq510pq511pq52
1pq512pq51Apq510pq527pq510pq521pq522pq521pq5O2pq520pq596pq540pq541pq52Apq51Cpq561pq511K01qq510qq511
qq521qq512qq51Aqq510qq527qq510qq521qq522qq521qq5O2qq520qq596qq540qq541qq52Aqq51Cqq561qq511K01rq510r
q511rq521rq512rq51Arq510rq527rq510rq521rq522rq521rq5O2rq520rq596rq540rq541rq52Arq51Crq561rq511K01sq
510sq511sq521sq512sq51Asq510sq527sq510sq521sq522sq521sq5O2sq520sq596sq540sq541sq52Asq51Csq561sq511K
01tq510tq511tq521tq512tq51Atq510tq527tq510tq521tq522tq521tq5O2tq520tq596tq540tq541tq52Atq51Ctq561tq
511K01uq510uq511uq521uq512uq51Auq510uq527uq510uq521uq522uq521uq5O2uq520uq596uq540uq541uq52Auq51Cuq5
61uq511K01vq510vq511vq521vq512vq51Avq510vq527vq510vq521vq522vq521vq5O2vq520vq596vq540vq541vq52Avq51
Cvq561vq511K01wq510wq511wq521wq512wq51Awq510wq527wq510wq521wq522wq521wq5O2wq520wq596wq540wq541wq52A
wq51Cwq561wq511K01xq510xq511xq521xq512xq51Axq510xq527xq510xq521xq522xq521xq5O2xq520xq596xq540xq541x
q52Axq51Cxq561xq5110110Ar13B00X10xv2b84Z.412K01yq510yq511yq521yq512yq51Ayq510yq527yq510yq521yq522yq
521yq5O2yq520yq596yq540yq541yq52Ayq51Cyq561yq511K01zq510zq511zq521zq512zq51Azq510zq527zq510zq521zq5
22zq521zq5O2zq520zq596zq540zq541zq52Azq51Czq561zq511K01_q510_q511_q521_q512_q51A_q510_q527_q510_q52
1_q522_q521_q5O2_q520_q596_q540_q541_q52A_q51C_q561_q511K01.q510.q511.q521.q512.q51A.q510.q527.q510
.q521.q522.q521.q5O2.q520.q596.q540.q541.q52A.q51C.q561.q511K01Wr510Wr511Wr521Wr512Wr51AWr510Wr527W
r510Wr521Wr522Wr521Wr5O2Wr520Wr596Wr540Wr541Wr52AWr51CWr561Wr511K01Xr510Xr511Xr521Xr512Xr51AXr510Xr
527Xr510Xr521Xr522Xr521Xr5O2Xr520Xr596Xr540Xr541Xr52AXr51CXr561Xr511011011K01Yr510Yr511Yr521Yr512Yr
51AYr510Yr527Yr510Yr521Yr522Yr521Yr5O2Yr520Yr596Yr540Yr541Yr52AYr51CYr561Yr511011K01Zr510Zr511Zr521
Zr512Zr51AZr510Zr527Zr510Zr521Zr522Zr521Zr5O2Zr520Zr596Zr540Zr541Zr52AZr51CZr561Zr511011K01ar510ar5
11ar521ar512ar51Aar510ar527ar510ar521ar522ar521ar5O2ar520ar596ar540ar541ar52Aar51Car561ar512011K01b
r510br511br521br512br51Abr510br527br510br521br522br521br5O2br520br596br540br541br52Abr51Cbr561br511
K01cr510cr511cr521cr512cr51Acr510cr527cr510cr521cr522cr521cr5O2cr520cr596cr540cr541cr52Acr51Ccr561c
r511011K01dr510dr511dr521dr512dr51Adr510dr527dr510dr521dr522dr521dr5O2dr520dr596dr540dr541dr52Adr51
Cdr561dr511K01er510er511er521er512er51Aer510er527er510er521er522er521er5O2er520er596er540er541er52A
er51Cer561er511K01fr510fr511fr521fr512fr51Afr510fr527fr510fr521fr522fr521fr5O2fr520fr596fr540fr541f
r52Afr51Cfr561fr511K01gr510gr511gr521gr512gr51Agr510gr527gr510gr521gr522gr521gr5O2gr520gr596gr540gr
541gr52Agr51Cgr561gr511K01hr510hr511hr521hr512hr51Ahr510hr527hr510hr521hr522hr521hr5O2hr520hr596hr5
40hr541hr52Ahr51Chr561hr511K01ir510ir511ir521ir512ir51Air510ir527ir510ir521ir522ir521ir5O2ir520ir59
6ir540ir541ir52Air51Cir561ir511011011K01jr510jr511jr521jr512jr51Ajr510jr527jr510jr521jr522jr521jr5O
2jr520jr596jr540jr541jr52Ajr51Cjr561jr5AR1j10.v212K01kr510kr511kr521kr512kr51Akr510kr527kr510kr521k
r522kr521kr5O2kr520kr596kr540kr541kr52Akr51Ckr561kr511K01lr510lr511lr521lr512lr51Alr510lr527lr510lr
521lr522lr521lr5O2lr520lr596lr540lr541lr52Alr51Clr561lr511K01mr510mr511mr521mr512mr51Amr510mr527mr5
10mr521mr522mr521mr5O2mr520mr596mr540mr541mr52Amr51Cmr561mr511K01nr510nr511nr521nr512nr51Anr510nr52
7nr510nr521nr522nr521nr5O2nr520nr596nr540nr541nr52Anr51Cnr561nr511K01or510or511or521or512or51Aor510
or527or510or521or522or521or5O2or520or596or540or541or52Aor51Cor561or511K01pr510pr511pr521pr512pr51Ap
r510pr527pr510pr521pr522pr521pr5O2pr520pr596pr540pr541pr52Apr51Cpr561pr511011K01qr510qr511qr521qr51
2qr51Aqr510qr527qr510qr521qr522qr521qr5O2qr520qr596qr540qr541qr52Aqr51Cqr561qr511K01rr510rr511rr521
rr512rr51Arr510rr527rr510rr521rr522rr521rr5O2rr520rr596rr540rr541rr52Arr51Crr561rr511K01sr510sr511s
r521sr512sr51Asr510sr527sr510sr521sr522sr521sr5O2sr520sr596sr540sr541sr52Asr51Csr561sr511011K01tr51
0tr511tr521tr512tr51Atr510tr527tr510tr521tr522tr521tr5O2tr520tr596tr540tr541tr52Atr51Ctr561tr511011
K01ur510ur511ur521ur512ur51Aur510ur527ur510ur521ur522ur521ur5O2ur520ur596ur540ur541ur52Aur51Cur561u
r511K01vr510vr511vr521vr512vr51Avr510vr527vr510vr521vr522vr521vr5O2vr520vr596vr540vr541vr52Avr51Cvr
561vr511K01wr510wr511wr521wr512wr51Awr510wr527wr510wr521wr522wr521wr5O2wr520wr596wr540wr541wr52Awr5
1Cwr561wr511K01xr510xr511xr521xr512xr51Axr510xr527xr510xr521xr522xr521xr5O2xr520xr596xr540xr541xr52
Axr51Cxr561xr511K01yr510yr511yr521yr512yr51Ayr510yr527yr510yr521yr522yr521yr5O2yr520yr596yr540yr541
yr52Ayr51Cyr561yr511K01zr510zr511zr521zr512zr51Azr510zr527zr510zr521zr522zr521zr5O2zr520zr596zr540z
r541zr52Azr51Czr561zr511011K01_r510_r511_r521_r512_r51A_r510_r527_r510_r521_r522_r521_r5O2_r520_r59
6_r540_r541_r52A_r51C_r561_r511011K01.r510.r511.r521.r512.r51A.r510.r527.r510.r521.r522.r521.r5O2.r
520.r596.r540.r541.r52A.r51C.r561.r511K01Ws510Ws511Ws521Ws512Ws51AWs510Ws527Ws510Ws521Ws522Ws521Ws5
O2Ws520Ws596Ws540Ws541Ws52AWs51CWs561Ws511K01Xs510Xs511Xs521Xs512Xs51AXs510Xs527Xs510Xs521Xs522Xs52
1Xs5O2Xs520Xs596Xs540Xs541Xs52AXs51CXs561Xs511K01Ys510Ys511Ys521Ys512Ys51AYs510Ys527Ys510Ys521Ys522
Ys521Ys5O2Ys520Ys596Ys540Ys541Ys52AYs51CYs561Ys511K01Zs510Zs511Zs521Zs512Zs51AZs510Zs527Zs510Zs521Z
s522Zs521Zs5O2Zs520Zs596Zs540Zs541Zs52AZs51CZs561Zs511K01as510as511as521as512as51Aas510as527as510as
521as522as521as5O2as520as596as540as541as52Aas51Cas561as511K01bs510bs511bs521bs512bs51Abs510bs527bs5
10bs521bs522bs521bs5O2bs520bs596bs540bs541bs52Abs51Cbs561bs511K01cs510cs511cs521cs512cs51Acs510cs52
7cs510cs521cs522cs521cs5O2cs520cs596cs540cs541cs52Acs51Ccs561cs511K01ds510ds511ds521ds512ds51Ads510
ds527ds510ds521ds522ds521ds5O2ds520ds596ds540ds541ds52Ads51Cds561ds511011K01es510es511es521es512es5
1Aes510es527es510es521es522es521es5O2es520es596es540es541es52Aes51Ces561es511K01fs510fs511fs521fs51
2fs51Afs510fs527fs510fs521fs522fs521fs5O2fs520fs596fs540fs541fs52Afs51Cfs561fs511K01gs510gs511gs521
gs512gs51Ags510gs527gs510gs521gs522gs521gs5O2gs520gs596gs540gs541gs52Ags51Cgs561gs511K01hs510hs511h
s521hs512hs51Ahs510hs527hs510hs521hs522hs521hs5O2hs520hs596hs540hs541hs52Ahs51Chs561hs511K01is510is
511is521is512is51Ais510is527is510is521is522is521is5O2is520is596is540is541is52Ais51Cis561is511K01js5
10js511js521js512js51Ajs510js527js510js521js522js521js5O2js520js596js540js541js52Ajs51Cjs561js511K0
1ks510ks511ks521ks512ks51Aks510ks527ks510ks521ks522ks521ks5O2ks520ks596ks540ks541ks52Aks51Cks561ks5
11K01ls510ls511ls521ls512ls51Als510ls527ls510ls521ls522ls521ls5O2ls520ls596ls540ls541ls52Als51Cls56
1ls51lMB400300200H00G00400I70310180k100I201kMB400300200H00G00400I70310180k100I201o52B00n4101o52B00n
410Aj11j10X_1A11j10g_1A11j10_X3A11j10dY3A11j10Zo1A11j10go1A11j10pd3A11j10xd3A11j100AkNK10au2510B008
00G502K0100320180310F0ox2P0090px2A00j40x_200cZ300zy410ca3C0_y4E0qx2A15k90tu200uu200pv210Wz2C0pv2A13
m90_v210bz2C0_v21Z8L10ms510ms520ms521ms521ms514ms514ms510ms527ms541ms522ms521ms5O2ms520ms596ms540ms
541ms52Ams51Cms561ms5Qq5011K10ns510ns520ns521ns521ns514ns514ns510ns527ns541ns522ns521ns5O2ns520ns59
6ns540ns541ns52Ans51Cns561ns511K10os510os520os521os521os514os514os510os527os541os522os521os5O2os520
os596os540os541os52Aos51Cos561os511K10ps510ps520ps521ps521ps514ps514ps510ps527ps541ps522ps521ps5O2p
s520ps596ps540ps541ps52Aps51Cps561ps5110110110110A9s110kz220kc350jh120qf350pc350z2I0gP70te4M0qX110r
X101kg5E0oZ330ge400he440wZ440lc330iZ313lc320sX120tX165oZ300lk5B0my200lg510uX100mg501oZ300jh1F0aw4j1
0zi5R0lc390ng5T0jY3F0lX300ic300sW410bf350nc300oc310pc300nc301pc300tW452pc310pc300qc302pc300kZ310pc3
20Ya551pc300nc301pc300nc31t46000400600800I00r300A2s110nr120Yx150gh120jf350ex150w2I0dP70me4M0eW110fW
101he5E0_t130wa400xa440wY440Zx130iu113Zx120gW120hW165_t100pj5B0qy200ie510iW100je501_t100gh1F0nu4j10
kh5R0Zx190ke5T0.t1F0Wu100bx100iz110jz150cx100dx110ex100cx101ex100iz152ex110ex100fx102ex100ju110ex12
0qZ551ex100cx101ex100cx11u46000400600800I00r300A23m90c_110d_1C0c_1AeOJ10Zw2510210700800G502K0100320
180310F0aW3P0090oy2A00l40tX310uX3C0tX3E0bW3A13m90YY310ZY3C0YY3A1s110Yl120fm150ih120of350lm150y2I0fP
70re4M0dX110eX101zf5E0fl130rd400sd440uZ440gm130ml113gm120fX120gX165fl100jk5B0sy200_f510hX100.f501fl
100ih1F0yv4j10ki5R0gm190Wg5T0gl1F0hl100im100nn110on150jm100km110lm100jm101lm100nn152lm110lm100mm102
lm100nl110lm120.Z551lm100jm101lm100jm1A13m90do110eo1C0do1A95k90hW300pZ300hd310id3C0hd3A13m90ud310vd
3C0ud3ALN10vZ380kh120wf3c10we4M0XY110YY1K0be400ce4D0um370ZY120aY1C0qk5B0ty200qj510bY130kh1F0Wx4p20l
h5T0xf3F0pe330cq3R0vm340ca5A13m90_v210hq3C0_v2A75k90lz200uW300qp310jZ3C0rp3AQA10_Y3Z200h10zf3Z10uy2
j300i10pv210wm304070pv2E0_f3A13m90_v210zm3C0_v2AP910vy2H0gg3z20.u2Z100w40010mn3C00E0Yv250wf4A1510Xu
2H0Yv2c20fa1t60ho3X100A13j10rv2i100t60fc4A21w20ha1B.8L10qs510qs521qs515qs530qs510qs540qs511qs5A0qs5
3Aqs5F0qs550qs513qs520qs560qs526qs540qs541qs52Oqs530qs5Uq50B1K10rs510rs521rs515rs530rs510rs540rs511
rs5A0rs53Ars5F0rs550rs513rs520rs560rs526rs540rs541rs52Ors530rs5B1K10ss510ss521ss515ss530ss510ss540s
s511ss5A0ss53Ass5F0ss550ss513ss520ss560ss526ss540ss541ss52Oss530ss5A41w20oz1A62j10sz1a80gd4A21w20a_
1A11w20Zm1A32j10xX3a80pd4A21w20bm1A11w20eW3A32j10vn1a80xd4A21w20gW3A11w20jd3A32j10nd3a80Ze4A21w20sd
3A11w20ae3A11w20ce3A12w200t60un3A11o90cv2A11o90xy2A11o90yy2A12o90wg460gv2A11v90hv2A31o90mn3Ae1810Yu
1H0dw1z20ax1Z100w40010ew1C00E0ex1A12J0ex1_80hw1Ae1710ly2l30zW3Z100w40010us3C00E0WX3A13k90lz200uW320
jZ3A62v90ft320cc4A61o90ht3A11o90go3A11o90qv2A11o90Xz2AX2510Xu2Z200z500k10dc4040A81o90nt3AJ1w200A11o
90yv2A11o90az2A11o90cz2A11o90dz2A11o90oc4An1710he3l30.u2Z100w40010eu3C00E0Yv2A21o90pc4A11o90Ww2A11o
90Xw2A11o90qc4AC1o90_u3A11o90ze3A11o90_e3A11o90.e3A51o90tc4A11o90uc4A11o90Yw2A11o90vc4A11o90wc4A11o
90xc4A11o90jz2AW11o90ux1A11o90vx1A11o90zx1A1Fq10ab4a20ZVF0gb5C0hb5L0vf4p20kb5j10tu200uu220yu450Wv20
0_x120Wv2M0vx470Wv220Wv2A11v90Wy1A63k90x_200cZ320ca3A41o90pz1A11o90qz1A11o90Y_1A11o90Z_1Aj2710iW3l3
0mc3Z100w40010fc3C00E0pc3A11o90gc3A31o90h_1A11o90i_1A11o90k_1A11o90l_1AO1o90bX3A11o90cX3A11o90gX3A1
Fq10ab4a20ZVF0gb5C0hb5L0vf4p20kb5j10tu200uu220ov450Wv200hX320Wv2M0vx470Wv220Wv2A11v90jX3A31o90vX3A1
1o90wX3A11o90.X3A11o90WY3AA1o90v_1A11o90w_1A31o90eY3A11o90fY3A11o90hY3A11o90iY3Aa3710jl1l30hm1Z100w
40010tm1C00E0lm1A11o90um1A11o90ym1A1Fq10ab4a20ZVF0gb5C0hb5L0vf4p20kb5j10tu200uu220_v450Wv200zm120Wv
2M0vx470Wv220Wv2A11v90.m1A31o90tn1A11o90un1A11o90ao1A11o90bo1A11o90ho1A11o90io1A11o90ko1A11o90lo1AX
11o90vc3A11o90wc3A11o90_c3A1Fq10ab4a20ZVF0gb5C0hb5L0vf4p20kb5j10tu200uu220cw450Wv200.c320Wv2M0vx470
Wv220Wv2A11v90Xd3A31o90kd3A11o90ld3A11o90qd3A11o90rd3A11o90yd3A11o90zd3A11o90.d3A11o90We3Af21o90cv2
A11o90gr3A11o90hr3A1Aq10ab4a20ZVF0gb5C0hb5L0vf4p20kb5j10tu230.w460gv2P0vx4A11v90hv2A.11o90.p3AK2J0u
l1_80vl1AL1o90wl1A61o90qv2A11o90dq3A11o90yv2A11o90gq3A11o90iq3A11o90jq3A11o90Ww2A11o90Xw2A11o90Yw2A
11o90nq3Aj11o90aY3A11o90bY3AF1o90pq3AE1o90no1A11o90oo1A31o90uq3A11o90zq3A11o90Yr3A71o90XZ4Ai31o90qv
2A11o90xm3A31o90eZ4A21o90yv2A11o90ym3A11o90_m3A11o90.m3A11o90Ww2A11o90Xw2AB1o90id4A81o90kZ4A31o90Yw
2A11o90Wn3A41o90qd4A11o90yd4A11o90ae4A41o90cv2A11o90an3A11o90bn3Ah45h20iZ110jZ1k10lZ1R0mZ1v40Zx4A11
v90hv2A61o90oe4A41o90ye4A21o90ze4A21o90_e4A11o90.e4A11o90Wf4A11o90Zf4A11o90af4C0t110jW310dk100us210
jW320jW300d.100qa100rw150jW360j600zj1H0p730Xr130ux2G0pC81Yc530sf4E0jd400kd430yk551.y280vr300so100Yr
101tt110jW302wb200xb206jW300bc5J0cM30yk540wn3k10wb510hf410wb590ls3B0wb500fu450.y250te130mZ320hf401f
u400hf401.y230wn3O0Xq200uq2g11wn300kY531wn370qb440gu400kf4C1M10mW310kk120mW320mW310ra100lu150mW370W
k1L0ks130py2Z20wq100ls101ru110mW302cc200dc206mW3K0YX380qq3b30qq3a21qq341qq3C2I10kW310ek120kW320kW32
0bu150kW3T0ir130jy2Z20xp100jr101cu110kW302_b200.b206kW3d30if4J1if4.20jf4C3F10lW310hk120lW320lW320.l
150lW3T0or130ny2Z20vq100pr101ou110lW302ac200bc206lW3C38B0qa100q_1D0zj1Y40cM80wn3b30wn3a21wn341wn3C1
1C0y_1C11C0X.1C71C0Wc2C61C0Yc2C3E10nW310nk120nW320nW380nW3T0ms130ry2Z20xq100ns101tu110nW302ec200fc2
06nW3C71C0wf2C11C0q_18eEG10b6100200200800P0_k5300300j10yc400zc49E01B0n20c6R0d6G10J0q641A10re380vv1X
10s7r110q20Yb4S0bg330bg3000K0bg36c1082610ZOW30zd400_d4s30aOR0YPb10qP1uEM10ts510ts521ts515ts530ts510
ts540ts511ts5A0ts532ts513ts511ts5L0ts513ts520ts560ts526ts540ts541ts52Nts540ts5Uq5011L10us510us521us
515us530us510us540us511us5A0us532us513us511us5L0us513us520us560us526us540us541us52Nus540us511011L10
vs510vs521vs515vs530vs510vs540vs511vs5A0vs532vs513vs511vs5L0vs513vs520vs560vs526vs540vs541vs52Nvs54
0vs5872C0jq1uA0qu4472C0jq1uA0qu4872C0jq1uA0qu4831C0ar1431C0ar1831C0ar12.DJ10cm110020020080060_k5M10
200U0_k5E0rd400sd4K301B0n20dm1800I0em1900R0pq1s10021670eH31an5E0an5B0an550an5k20an5CGR10hZ310_k120h
Z320hZ311ws550hZ3700L0ww130Y.2Z20wt100xw101hZ210hZ302_j200.j206hZ3K0080eo3m10Yy4O0Zy4I0Yy401Zy400Yy
450eo3a21eo341eo3C10C14c50rq3b30rq3a21rq341rq323870sF31_k5D0_k5000B0_k550_k540XBf20021170eH89770nC4
00C0_k5D0X1h10_k5e100e71049770nC400C0_k5D0X1h10_k5e100e71082610ZOW30zd400_d4s30aOR0YPb10qP81810xl1A
0_k5Q00w10wa400xa4s30yl1R0zl1b10kr12A770bl530cl5000E0cl5B0cl550040oA274B1bn5D00C0an550bn5874d100500
40z9h30_k5842C00Q0n1471d10n1871d10n183470nGM0_k5800A0dB853C00H0_k5J0dB8T310gf4W310s3Y202F5C00G0cn50
0gA80050056A10fZ350sFL0cn500gA800A0XBh300s10ka330ka3L0ka32A670dn530Wl5000Q0tV50cl540.B50K40xs521xs5
12xs570xs542xs510xs590xs542xs540xs52Exs51Mxs531xs550yk500xs5J0xs5E0xs510ys500xs5H0xs500yk551I40zs52
1zs512zs570zs542zs510zs590zs542zs540zs52Ezs51Mzs531zs560zs5J0zs5E0zs510_s500zs5H0zs551I40.s521.s512
.s570.s542.s511.s580.s542.s540.s52E.s51M.s531.s560.s5J0.s5E0.s510000.s5H0.s5532U0xs5k300532U0zs5k30
051H40Wt521Wt512Wt570Wt542Wt511Wt580Wt542Wt540Wt52EWt51MWt531Wt560Wt5J0Wt5E0Wt520Wt5H0Wt551H40Xt521
Xt512Xt570Xt542Xt511Xt580Xt542Xt540Xt52EXt51MXt531Xt560Xt5J0Xt5E0Xt520Xt5H0Xt551H40Yt521Yt512Yt570Y
t542Yt511Yt580Yt542Yt540Yt52EYt51MYt531Yt560Yt5J0Yt5E0Yt520Yt5H0Yt551H40Zt521Zt512Zt570Zt542Zt511Zt
580Zt542Zt540Zt52EZt51MZt531Zt560Zt5J0Zt5E0Zt520Zt5H0Zt52Q670vD400D0000_k5H0040oA8E2C0jq1uA0qu4811C
0ar123170eH51670YI20_k5G00B00A0pBx20_k551170eH2G470en531cl5Q00A0XB8KM10020at520fD00at520at580at540b
t500at520at5E0at510at530XA00at52Ect51Cat500bt508at531at560at5Y10at5I0at510at58L11004Q470zE300R00A0u
A8Q470zE300R00A0uA2L370qJ300X10_k5211d10XW18c1470zE300R00A0uA2O1d1005GH40kp521kp512kp570kp542kp511k
p580kp542kp540kp52Ekp51Mkp531kp560kp5J00E0kp520kp5H0kp551G40lp521lp512lp570lp542lp511lp580lp542lp54
0lp52Elp51Mlp531lp560lp5Y10lp520lp5H0lp58AI70uF31dt5C0h800dt5C0040dt510rY530YB00sv4N0dt510dt550uY1e
100G0dt5F1dt5y20pz2p20nX3L108B2C0jq1uA0qu48I11004B1u50Wd488610cf3W30jd400kd4s30df3R0pl3b10hW4841C0a
r18L11008k1370zE310b10uA8i12B10b10uA29CC0at5C0f800at5C0at550at500vz440oh4V0cV60dt5Y210y20bu2p20jv25
1B70gH21at5D2at520at5D2at530000at5NFat5o10000at5i3q2010P10et510et520et521et521et530et510et540f820et
5E1et510jc502et521et5F0et582et520cV96et530yk500et541et52Aet51Cet5N0yk5v20xd1p20xy422J70ft520000gt50
00D1020080jW140ht500gt500it530YBO0ht510ht550jt5e10kt5G0lt5000_40X_4X10fv284570sCV0050040XAh30at582A
C0gt5D0lt5C0050000mt5a10nt5e100W11lt5k400X10fX323970uF30ht500at5D0at5C0at550at5i10ht5X100m50083470p
G400H0at5J0eB2V470xI300F00M0vB2N1d10022170eH22170eH21470iKM0_k5E0040bC21170eH242d10an5A0jB213T0cn50
0gA80022270jDV001iHP10ot510ot520ot521ot521ot530ot510ot540ot520ot5E1ot522ot521ot5F0ot582ot520ot596ot
540ot541ot525ot500pt503ot51Cot5Y1k205p20C0yc12F870qt530rt5F0st5B0rt550040kBf20rt5m5008D570sCV005004
0XAh30at555910Xi480vv1X10tt5r110n30Xi430Xi4000K0Xi46c1014L10ut510ut520ut521ut521ut530ut510ut540ut51
1ut5E1ut513ut521ut5F0ut582ut520ut596ut540ut541ut52Aut51Cut5o3a302l23100W310s3Y20258C0rt5E0rt5G0at50
0rt500at5S8at5v100X6002m23100W310s3Y2022670gH31vt5E0vt5B0vt550vt5k20vt528570wt530xt5F0gt5B0xt5A0pA2
R670xD400D0000at5H0040pA8m1B10091oo5D0oo5H0yt5000T0yt510yt5K10f10oo5F1oo5x1Y202T6C00D00C0050dt5i10a
t5X10dt52E170hE8C470pG400H0at5J0eB24870sF30yt500_k5D0_k5C0_k550_k5i10yt5Y2108Q370.EM00J0wA24170eG21
170uH53670aI20at5F00N0qBx20at5F0022170oI21170hJ21170eH21170aK21170yK21170lF2G3B0at5F0dt5_10at522170
YH8_2310gf4W310s3Y201T2l10zt5v2002P7C00E0oo5G0yt5000T0yt510yt5.10oo51RL10_t510_t520_t521_t521_t530_
t510_t540_t511_t5E1_t510002_t521_t5F0_t582_t520_t596_t540_t541_t52A_t51C_t58H570nCV0050040z9h30_k52
W1670gH30lt5F00B0vt550lt5k20013K10.t510.t520.t521.t521.t530.t510.t540.t511.t5E1.t522.t521.t5F0.t582
.t520.t596.t540.t541.t52A.t51C.t52T1o1002S1o10027470bl530cl5R0cl5A0oA2n1670xD400D0000at5H0040pA2647
0uF30Wu5X10Wu540YB8v28A00G00B00500k200G0ys5000F0xs58v28A00G00B00500k200G0_s5000F0zs58S470.E30lt5I00
J0wA833Q0ys5300_31ys5833Q0_s5300_31_s58H1d10n18E470nG400H0_k5J0dB59670aI20at5G00B00A0qBx20at52s3310
0W310s3Y2021170eH2e1370zIJ00M0wB21470sJV0050at540WC21470kKM0at5E0040cC2f1370gHg10kBf2002S570uF40dt5
E00B00A0YB2d2670uF200G00200J0YBx20021170gH81670sC400Q0X150040XAh30at58U11001PL10Xu510Xu520Xu521Xu52
1Xu530Xu510Xu540Xu510000Xu5E1Xu522Xu521Xu5F0Xu582Xu520Xu596Xu540Xu541Xu52AXu51CXu5822C0_k5Q00842C0a
t5Q002_33100W310s3Y202s16R0xt5G0at510at5S8at5v100X6001l24P0et5K00a10et5d5q208p37A00G00B00500k200H00
F0.s52X43100W310s3Y208.26A00G00B00500W300F0kp58S1j4008S1j4008r37A00G00B00500k200H00F0Wt58r37A00G00B
00500k200H00F0Xt58Z36A00G00B00500W300F0lp52K3B00F0dt5H002i1670eH30oo5F00B0an550oo5k2001BK10Yu510Yu5
20Yu521Yu521Yu530Yu510Yu540Yu520Yu5E1Yu522Yu521Yu5F0Yu582Yu520Yu596Yu540Yu541Yu52AYu51CYu58v37A00G0
0B00500k200H00F0Yt58v37A00G00B00500k200H00F0Zt58I170eH2W2670vD400D0000_k5H0040oA26470sF30Zu5X10Zu54
0XB27470en5V00A0XBf20oo52g16B0ys5000D00C0xs550ys5m3002g16B0_s5000D00C0zs550_s5m3008c1470zE30oo5I00J
0uA2k14B0at500ht5Q005008P370gHM0at5J008Q170gH8V1d10n18i111008q43100W310s3Y2081170eH5D670YI20_k5G00B
00A0pBx20_k52e12j100i10dt5882C00b10eB2e11o1002w1470zI30lt5F00M0wB83170pG22470sJV0050at540WC21470kKM
0at5E0040cC8d11o1002c11o1008v1470zE300R00A0uA2m14B1au5D00C0050au5212d10vt5A002W53100W310s3Y202p15C0
0G0bu500hA8005002W53100W310s3Y2024770cu530rt5000G0uV90vV50xt540WC2E670xD400D0000at5H0040pA2v43100W3
10s3Y202C370gHM00J0kB2U4B0xs5I9050xs5k20ys52U4B0zs5I9050zs5k20_s52Y14B0_k500yt5Q005008h23B0ys5000H0
08h23B0_s5000H0027170eH5z43100W310s3Y2051170eH2z43100W310s3Y202I370ft531xt5W10xt58K110Xx42E170gH2j1
470xI30oo5F00M0vB8S1o10022470qJV0050_k540.B21470iKM0_k5E0040bC5m4670aI400D1029050040qB51170gHAw6T10
tW310yk100hr210tW320tW300000zj100cM50tW3P0aA30eX230sW3G00d11wy290aw100fX201de210tW302Yw100re206tW3i
240L1050wy2C3001wy2S0_p200oq2_1102P1o1002P370qJ300X10_k52P370sJ300X10at5221d10XW1221d10YW12R1o1002U
1d1002U2T0at59002C370eHM00J0jB2S2B0ys5m3002S2B0_s5m300AC8B0.j100mx1D0.j1Y40mx180Xq3b30Xq3a21Xq341Xq
3A18B0Wk100YX3D0Wk1Y40YX380qq3b30qq3a21qq341qq3A18B0Xk100om1D0Xk1Y40om180vq3b30vq3a21vq341vq3A18B0Y
k100sc3D0Yk1Y40sc380_q3b30_q3a21_q341_q3A18B0Zk100tp3D0Zk1Y40tp380Zr3b30Zr3a21Zr341Zr38P110081170eH
8_12B10b10wA81170.E2U1o1005O1o1002F1o1002Z53100W310s3Y202L1d10022170eH22170eH2Z53100W310s3Y2021170e
H8A1o100252d10an5A0jB213T0cn500gA8002W1470gH300E00N0kB2S470zI300F00M0wB2U2T0at590022170gH22170gH253
70kKL1at5J0cC21170gH29270jDV0022370kDM00J0kBAQ8B0000eMD00Y40eM80Xu3b30Xu3a21Xu341Xu3A12C0fMm40fMA12
C0gMm40gM25170hE25170iEA32C0tz1m40tz1A12C0f_1m40f_1A12C0j_1m40j_1A12C0zX3m40zX3A12C0cY3m40cY3A12C0g
Y3m40gY3A12C0wn1m40wn1A12C0fo1m40fo1A12C0jo1m40jo1A12C0od3m40od3A12C0wd3m40wd3A12C0_d3m40_d3A12C0vp
3m40vp3A12C0wp3m40wp3A12C0xp3m40xp32H170eG2H170fG22170uH22170vH22170oI22170pI22170hJ22170iJ22170eH2
1170aK23170bK22170yK22170zK22170lF22170mF2f12d10vt5A002j11o10024170YH24170ZH2l11o1002l11o10023170gH
2k11o1002i11o10021170iE21170fG21170vH21170pI21170iJ21170bK21170zK21170mF21170ZHAY16C00m40080eo3b30e
o3a21eo341eo3AZ12C00m400A14c50aq3b30aq3a21aq341aq3A14c50rq3b30rq3a21rq341rq3A14c50wq3b30wq3a21wq341
wq3A14c50.q3b30.q3a21.q341.q3A14c50ar3b30ar3a21ar341ar3A1W130tW300fr270yq1C0000bk1L0XX230tW3U00P1nx
280vY400zq100Xw101be210_q1B0zp200gr2Rz10I0nx250Yr230000bk120Wn221nx200ug420ob400ug4N0oo200nq2g16000
ug470ce2C0bk1A14C0Wr1D0ck1c70ck1h30ck1A1P10du510du500eu510du520du520fu550du570gu5H0hu530iu530du5P1j
u5I0ku500lu591mu580nu500ou500pu501qu510ru502su500tu506du500uu500vu59tNR40uw400x500vw400sD00kj510WZ3
00wu500xu570041.m520090.m54203W1000.m50D0600J0.m550_p3840D1.m510060oZ500_c420eW4v50qu400Zg4912C0yu5
uA0Yg4A44C0Yp1D0gk1c70gk1h30gk1A51C0op1941C0zu5A24C0h7D0jk1c70jk1h30jk1A31C0j7931C0_u5A24C0pND0mk1c
70mk1h30mk1A31C0qN931C0.u5A24C0bTD0pk1c70pk1h30pk1A31C0cT1pAY110Ya310Ya300dr210Ya320Ya310Zl100.v150
Ya3610H0v730wW230Ya3P50E0zd400_d491Zg380000Ww100xW201Ye210Ya302wl200xl206Ya30K0800y100I0Zg354061Zg3
300O0xp200kq2g1F06PQ40Wv520000Wv512Wv570Wv540e801Wv511Wv580Wv540xA00Wv500pW540wl32E01CWv500rY108Wv5
31Wv560yp3Y10Wv520Wv5H0Wv5a20pu4H0zo130cp1p20tl112I10dc310dc320dc320dc320dr150dc3T0ha230dc3Z20kx100
ia201se210dc302lm200mm206dc3d30fu4J1fu4.20gu411F10hc310hc320hc320hc320kq150hc3T0_a230hc3Z20n_100.a2
01cf210hc302nm200om206hc311F10jc310jc320jc320jc320gu150jc3T0kb230jc3Z20p_100lb201gf210jc302pm200qm2
06jc311F10rc310rc320rc320rc320mf250rc3T0qb230rc3Z20x_100rb201nf210rc302rm200sm206rc311F10de310de320
de320de320ck250de3T0ub230de3Z20W.100vb201rf210de302um200vm206de37rd1K03011020036022030010io516000io
5030320210d1202109E000io50C030io5210B0io59B370pD31.m5uA107rd1K03011020036022030010jo516000jo5030320
210d1202109E000jo50C030jo5210B0jo592270sD31Xv56AK40dt530dt512dt570dt551dt511dt580dt541dt500WZ540dt5
ICdt518dt531dt560dt5Y10dt511dt5H0dt5a2I030an1p20bn1613k10XZ5i60cn1p20dn1613k10YZ5i60en1p20fn161K40l
t530lt512lt570lt542lt511lt580lt541lt500cg540lt5IClt518lt531lt560lt5Y10lt511lt580sY180lt5w200p20xm11
9L10kg310kg320kg320kg311ws550kg3T0aj230kg3Z20.d200bj201vl210kg302Yo200Zo206kg3k20Yy4O0Zy4I0Yy401Zy4
00Yy4_2106FE40kn530kn512kn570kn542kn511kn580kn550kn5OMkn531kn5f10kn520kn5H0kn5w2q206sGK12000qs51100
0qs500035070qs510001qs5C003301H00Mqs50202109E01C010qs520qs5H0qs56sGK12000rs511000rs500035070rs51000
1rs5C003301H00Mrs50202109E01C010rs520rs5H0rs56sGK12000ss511000ss500035070ss510001ss5C003301H00Mss50
202109E01C010ss520ss5H0ss57Xe1L03011000jn510036013020in500010in507000in503010in5120210d1202109S040i
n5110C0rq162H40oo530oo512oo570oo542oo511oo580oo542oo540oo5IMoo531oo560oo5J00E0oo511oo580oo580oo568I
40Yv530Yv512Yv570Yv542Yv511Yv580Yv542Yv540Yv5ICYv518Yv531Yv560Yv5Y10Yv511Yv580080Yv5k50Xn16AI40Zv53
0Zv512Zv570Zv551Zv511Zv580Zv541Zv500_Y540Zv5IMZv531Zv560Zv5Y10Zv511Zv5H0Zv5w20Yn1p2006H6L0050io5300
D0io5W30io5E106B1t40065G40av530av512av570av542av511av580av542av540av5IMav531av560av5Y10av511av580av
580av56I6L0050jo5300D0jo5W30jo5E106EG40bv530bv512bv570bv542bv511bv580bv542bv540bv5IMbv531bv560bv5Y1
0bv511bv5H0bv5k500673p20Yv5Z20tY1t50062F40cv530cv512cv570cv542cv511cv580cv542cv540cv5IMcv531cv560cv
5Y10cv511cv5H0cv564J40dv530dv512dv570dv541dv500ev510dv500080dv542dv540dv5IMdv531dv560dv5J0ev5E0dv51
0ev500dv5H0dv5613R0fv5W30fv5G0fv56H3i12kn540kn5n5006BH40gv530gv512gv570gv551gv511gv580gv542gv540gv5
IMgv531gv560gv5Y10gv510000gv5H0gv5w20fp161G40hv530hv512hv570hv551hv511hv580hv542hv540hv5IMhv531hv56
0hv5Y10hv520hv5H0hv5w20vp167G40iv530iv512iv570iv542iv511iv580iv542iv540iv5IMiv531iv560iv5Y10iv520iv
580080iv561K40jv530jv512jv570jv542jv511jv580jv542jv540jv5I4jv500iX100jv500jX10Ejv531jv560jv5Y10jv51
0rZ100jv5H0jv561H40kv530kv512kv570kv542kv511kv580kv542kv540kv5I4kv510kv51Ekv531kv560kv5Y10kv520kv5H
0kv57qf1I03011020000N26022030010gn51B020bf5020210d1202109S0610B0gn5R0lr1711k10cf5711k10gn564F40ts53
0ts512ts570ts542ts511ts580ts542ts540ts5IMts531ts560ts5Y10ts511ts5H0ts56tf1U03011020000hn500lv500hn5
06000hn503002hn500027000hn503000lv500hn5120210L0lv510lv505hn560lv522001hn501040hn54S030.o500hn51E06
r9970020at5E2at520at5J003E0E0at5w10at5i3q2062Q40mv520nv500mv510mv500ov500mv570mv542mv510mv590mv540o
v501mv540mv5I4mv500ov500mv500ov50Bmv500ov501mv531mv560mv5Y10mv510pv500mv5H0mv56s9870030qv5W10qv59E0
60qv510qv5C0qv5o10qv561F40us530us512us570us542us511us580us542us540us5IMus531us560us5Y10us511us5H0us
561061F40vs530vs512vs570vs542vs511vs580vs542vs540vs5IMvs531vs560vs5Y10vs511vs5H0vs569AA0PA0050gn530
070gn550gn500Xg5.20gn5E10Q0qq1611k10Yg5611k10gn564F40rv530rv512rv570rv542rv511rv580rv542rv540rv5IMr
v531rv560rv5Y10rv511rv5H0rv561F40sv530sv512sv570sv542sv511sv580sv542sv540sv5IMsv531sv560sv5Y10sv511
sv5H0sv56R1t4006X13P0Zv5K0.Y5i60061F40tv530tv512tv570tv542tv511tv580tv542tv540tv5IMtv531tv560tv5Y10
tv511tv5H0tv5611i10vU6U1t4006607f1170062F40.o530.o512.o570.o542.o511.o580.o542.o540.o5IM.o531.o560.
o5Y10.o511.o5H0.o56q13P0dt5v10dt5d5q20611k10ZZ561F40uv530uv512uv570uv542uv511uv580uv542uv540uv5IMuv
531uv560uv5Y10uv511uv5H0uv561F40pv530pv512pv570pv542pv511pv580pv542pv540pv5IMpv531pv560pv5Y10pv511p
v5H0pv561F40vv530vv512vv570vv542vv511vv580vv542vv540vv5IMvv531vv560vv5Y10vv511vv5H0vv56UG40wv530wv5
12wv570wv542wv511wv580wv542wv540wv5I4wv51Gwv531wv560wv5Y10wv511wv5H0wv561F40qv530qv512qv570qv542qv5
11qv580qv542qv540qv5IMqv531qv560qv5Y10qv511qv5H0qv561F40xv530xv512xv570xv542xv511xv580xv542xv540xv5
IMxv531xv560xv5Y10xv511xv5H0xv561F40yv530yv512yv570yv542yv511yv580yv542yv540yv5IMyv531yv560yv5Y10yv
511yv5H0yv56Y1H40zv530zv512zv570zv542zv511zv580zv542zv540zv5I4zv510zv51Ezv531zv560zv5Y10zv520zv5H0z
v56FH40_v530_v512_v570_v542_v511_v580_v551_v540_v5I4_v510_v51E_v531_v560_v5Y10_v520_v5H0_v561G40.v5
30.v512.v570.v542.v511.v580.v542.v540.v5IM.v531.v560.v5Y10.v510lX100.v5H0.v562F40Ww530Ww512Ww570Ww5
42Ww511Ww580Ww551Ww540Ww5IMWw531Ww560Ww5Y10Ww511Ww5H0Ww561F40ev530ev512ev570ev542ev511ev580ev542ev5
40ev5IMev531ev560ev5Y10ev511ev5H0ev561F40Xw530Xw512Xw570Xw542Xw511Xw580Xw542Xw540Xw5IMXw531Xw560Xw5
Y10Xw511Xw5H0Xw561F40Yw530Yw512Yw570Yw542Yw511Yw580Yw542Yw540Yw5IMYw531Yw560Yw5Y10Yw511Yw5H0Yw561F4
0Wp530Wp512Wp570Wp542Wp511Wp580Wp542Wp540Wp5IMWp531Wp560Wp5Y10Wp511Wp5H0Wp561F40fv530fv512fv570fv54
2fv511fv580fv542fv540fv5IMfv531fv560fv5Y10fv511fv5H0fv561F40Zw530Zw512Zw570Zw542Zw511Zw580Zw542Zw54
0Zw5IMZw531Zw560Zw5Y10Zw511Zw5H0Zw561F40aw530aw512aw570aw542aw511aw580aw542aw540aw5IMaw531aw560aw5Y
10aw511aw5H0aw561F40bw530bw512bw570bw542bw511bw580bw542bw540bw5IMbw531bw560bw5Y10bw511bw5H0bw562062
061F40cw530cw512cw570cw542cw511cw580cw542cw540cw5IMcw531cw560cw5Y10cw511cw5H0cw561F40dw530dw512dw57
0dw542dw511dw580dw542dw540dw5IMdw531dw560dw5Y10dw511dw5H0dw561F40ew530ew512ew570ew542ew511ew580ew54
2ew540ew5IMew531ew560ew5Y10ew511ew5H0ew561G40fw530fw512fw570fw542fw511fw580fw541fw500gw540fw5IMfw53
1fw560fw5Y10fw511fw5H0fw561F40ys530ys512ys570ys542ys511ys580ys542ys540ys5IMys531ys560ys5Y10ys511ys5
H0ys561F40_s530_s512_s570_s542_s511_s580_s542_s540_s5IM_s531_s560_s5Y10_s511_s5H0_s5631k10hw561F40i
w530iw512iw570iw542iw511iw580iw542iw540iw5IMiw531iw560iw5Y10iw511iw5H0iw5613h20iX110jX1.10rZ161F40j
w530jw512jw570jw542jw511jw580jw542jw540jw5IMjw531jw560jw5Y10jw511jw5H0jw561F40kw530kw512kw570kw542k
w511kw580kw542kw540kw5IMkw531kw560kw5Y10kw511kw5H0kw562062061F40lw530lw512lw570lw542lw511lw580lw542
lw540lw5IMlw531lw560lw5Y10lw511lw5H0lw566G40mw530mw512mw570mw542mw511mw580mw542mw540mw5I4mw51Gmw531
mw560mw5Y10mw511mw5H0mw561F40nw530nw512nw570nw542nw511nw580nw542nw540nw5IMnw531nw560nw5Y10nw511nw5H
0nw561F40Xp530Xp512Xp570Xp542Xp511Xp580Xp542Xp540Xp5IMXp531Xp560Xp5Y10Xp511Xp5H0Xp561F40ow530ow512o
w570ow542ow511ow580ow542ow540ow5IMow531ow560ow5Y10ow511ow5H0ow561F40pw530pw512pw570pw542pw511pw580p
w542pw540pw5IMpw531pw560pw5Y10pw511pw5H0pw561F40qw530qw512qw570qw542qw511qw580qw542qw540qw5IMqw531q
w560qw5Y10qw511qw5H0qw561F40rw530rw512rw570rw542rw511rw580rw542rw540rw5IMrw531rw560rw5Y10rw511rw5H0
rw562062062062061F40sw530sw512sw570sw542sw511sw580sw542sw540sw5IMsw531sw560sw5Y10sw511sw5H0sw561F40
tw530tw512tw570tw542tw511tw580tw542tw540tw5IMtw531tw560tw5Y10tw511tw5H0tw56JH40uw530uw512uw570uw542
uw511uw580uw542uw540uw5I4uw510uw51Euw531uw560uw5Y10uw520uw5H0uw561F40vw530vw512vw570vw542vw511vw580
vw542vw540vw5IMvw531vw560vw5Y10vw511vw5H0vw561F40ww530ww512ww570ww542ww511ww580ww542ww540ww5IMww531
ww560ww5Y10ww511ww5H0ww5613h20iX110jX1.10rZ161F40Yp530Yp512Yp570Yp542Yp511Yp580Yp542Yp540Yp5IMYp531
Yp560Yp5Y10Yp511Yp5H0Yp561F40xw530xw512xw570xw542xw511xw580xw542xw540xw5IMxw531xw560xw5Y10xw511xw5H
0xw561F40yw530yw512yw570yw542yw511yw580yw542yw540yw5IMyw531yw560yw5Y10yw511yw5H0yw561F40zw530zw512z
w570zw542zw511zw580zw542zw540zw5IMzw531zw560zw5Y10zw511zw5H0zw561F40Zp530Zp512Zp570Zp542Zp511Zp580Z
p542Zp540Zp5IMZp531Zp560Zp5Y10Zp511Zp5H0Zp561F40_w530_w512_w570_w542_w511_w580_w542_w540_w5IM_w531_
w560_w5Y10_w511_w5H0_w567H40.w530.w512.w570.w542.w511.w580.w542.w540.w5I4.w510.w51E.w531.w560.w5Y10
.w520.w5H0.w56_21t40062H40Wx530Wx512Wx570Wx542Wx511Wx580Wx542Wx540Wx5I4Wx510Wx51EWx531Wx560Wx5Y10Wx
520Wx5H0Wx561H40Xx530Xx512Xx570Xx542Xx511Xx580Xx542Xx540Xx5I4Xx510Xx51EXx531Xx560Xx5Y10Xx520Xx5H0Xx
57fh1K03011020036013020ko500010ko507000ko503010ko5120210d1202109S040ko5110C0uq16eC1s1E07W4GA00E0c81
00B0040YA00000yx440jg3V0cY1K0gn3b100F0Wv5c20zf4H0pW230cX2p20Zw19Z4S40vs220nD30wu500xu5C1.m5C0.m540k
F30nd2T1030.m5P1Zz280000tW300iZ201.f200.m503tW3810I1.m5t20Zz258021Zz20S000_q2n18040qu400Zg460063170
06Z32e30kn5k40061F40Yx530Yx512Yx570Yx542Yx511Yx580Yx542Yx540Yx5IMYx531Yx560Yx5Y10Yx520Yx5H0Yx561F40
Zx530Zx512Zx570Zx542Zx511Zx580Zx542Zx540Zx5IMZx531Zx560Zx5Y10Zx520Zx5H0Zx56d34R0dv520dv5z200G0061F4
0ax530ax512ax570ax542ax511ax580ax542ax540ax5IMax531ax560ax5Y10ax520ax5H0ax562061F40bx530bx512bx570b
x542bx511bx580bx542bx540bx5IMbx531bx560bx5Y10bx520bx5H0bx561F40cx530cx512cx570cx542cx511cx580cx542c
x540cx5IMcx531cx560cx5Y10cx520cx5H0cx561F40dx530dx512dx570dx542dx511dx580dx542dx540dx5IMdx531dx560d
x5Y10dx520dx5H0dx561F40ex530ex512ex570ex542ex511ex580ex542ex540ex5IMex531ex560ex5Y10ex520ex5H0ex56t
h1J03011020036013020lo500010lo507000lo503010lo5120210d1202109S040lo51E061F40fx530fx512fx570fx542fx5
11fx580fx542fx540fx5IMfx531fx560fx5Y10fx520fx5H0fx561F40gx530gx512gx570gx542gx511gx580gx542gx540gx5
IMgx531gx560gx5Y10gx520gx5H0gx561F40hx530hx512hx570hx542hx511hx580hx542hx540hx5IMhx531hx560hx5Y10hx
520hx5H0hx561F40ix530ix512ix570ix542ix511ix580ix542ix540ix5IMix531ix560ix5Y10ix520ix5H0ix561F40jx53
0jx512jx570jx542jx511jx580jx542jx540jx5IMjx531jx560jx5Y10jx520jx5H0jx561F40kx530kx512kx570kx542kx51
1kx580kx542kx540kx5IMkx531kx560kx5Y10kx520kx5H0kx561F40lx530lx512lx570lx542lx511lx580lx542lx540lx5I
Mlx531lx560lx5Y10lx520lx5H0lx56J7B0mx5I00D0mx5U0mx510mx5C0mx5o10bv562F40nx530nx512nx570nx542nx511nx
580nx542nx540nx5IMnx531nx560nx5Y10nx520nx5H0nx561F40ox530ox512ox570ox542ox511ox580ox542ox540ox5IMox
531ox560ox5Y10ox520ox5H0ox56A061F40px530px512px570px542px511px580px542px540px5IMpx531px560px5Y10px5
20px5H0px561F40qx530qx512qx570qx542qx511qx580qx542qx540qx5IMqx531qx560qx5Y10qx520qx5H0qx561F40on530
on512on570on542on511on580on542on540on5IMon531on560on5Y10on520on5H0on561F40rx530rx512rx570rx542rx511
rx580rx542rx540rx5IMrx531rx560rx5Y10rx520rx5H0rx56bi1J03011020036013020no500010no507000no503010no51
20210d1202109S040no51E061F40sx530sx512sx570sx542sx511sx580sx542sx540sx5IMsx531sx560sx5Y10sx520sx5H0
sx561F40tx530tx512tx570tx542tx511tx580tx542tx540tx5IMtx531tx560tx5Y10tx520tx5H0tx561F40ux530ux512ux
570ux542ux511ux580ux542ux540ux5IMux531ux560ux5Y10ux520ux5H0ux561F40vx530vx512vx570vx542vx511vx580vx
542vx540vx5IMvx531vx560vx5Y10vx520vx5H0vx561F40wx530wx512wx570wx542wx511wx580wx542wx540wx5IMwx531wx
560wx5Y10wx520wx5H0wx561F40xx530xx512xx570xx542xx511xx580xx542xx540xx5IMxx531xx560xx5Y10xx520xx5H0x
x561F40yx530yx512yx570yx542yx511yx580yx542yx540yx5IMyx531yx560yx5Y10yx520yx5H0yx561F40zx530zx512zx5
70zx542zx511zx580zx542zx540zx5IMzx531zx560zx5Y10zx520zx5H0zx59b12C0yu5uA0Yg462F40_x530_x512_x570_x5
42_x511_x580_x542_x540_x5IM_x531_x560_x5Y10_x520_x5H0_x561F40.x530.x512.x570.x542.x511.x580.x542.x5
40.x5IM.x531.x560.x5Y10.x520.x5H0.x561F40Wy530Wy512Wy570Wy542Wy511Wy580Wy542Wy540Wy5IMWy531Wy560Wy5
Y10Wy520Wy5H0Wy561F40sn530sn512sn570sn542sn511sn580sn542sn540sn5IMsn531sn560sn5Y10sn520sn5H0sn561F4
0un530un512un570un542un511un580un542un540un5IMun531un560un5Y10un520un5H0un561F40wn530wn512wn570wn54
2wn511wn580wn542wn540wn5IMwn531wn560wn5Y10wn520wn5H0wn561F40yn530yn512yn570yn542yn511yn580yn542yn54
0yn5IMyn531yn560yn5Y10yn520yn5H0yn561F40Xy530Xy512Xy570Xy542Xy511Xy580Xy542Xy540Xy5IMXy531Xy560Xy5Y
10Xy520Xy5H0Xy561F40Yy530Yy512Yy570Yy542Yy511Yy580Yy542Yy540Yy5IMYy531Yy560Yy5Y10Yy520Yy5H0Yy561F40
_n530_n512_n570_n542_n511_n580_n542_n540_n5IM_n531_n560_n5Y10_n520_n5H0_n561F40Wo530Wo512Wo570Wo542
Wo511Wo580Wo542Wo540Wo5IMWo531Wo560Wo5Y10Wo520Wo5H0Wo561F40Yo530Yo512Yo570Yo542Yo511Yo580Yo542Yo540
Yo5IMYo531Yo560Yo5Y10Yo520Yo5H0Yo561F40ao530ao512ao570ao542ao511ao580ao542ao540ao5IMao531ao560ao5Y1
0ao520ao5H0ao561F40co530co512co570co542co511co580co542co540co5IMco531co560co5Y10co520co5H0co561F40e
o530eo512eo570eo542eo511eo580eo542eo540eo5IMeo531eo560eo5Y10eo520eo5H0eo561F40go530go512go570go542g
o511go580go542go540go5IMgo531go560go5Y10go520go5H0go56h44B0mv5W10mv5UFmv5o10061G40Zy520ay500Zy512Zy
570Zy542Zy510Zy590Zy542Zy540Zy5IMZy531Zy560Zy5Y10Zy520Zy5H0Zy56l44B0hn5W10hn5UFhn5o1006b16B0by5W10b
y5U0by510by5C0by5o10sv57uj1F03011020036022030010qn51B0320210d1202109S0610B0qn57uj1F0301102003602203
0010rn51B0320210d1202109S0610B0rn56u17B0cy5I00D0cy5U0cy510cy5C0cy5o10xv56.j1J03011020036013020mn500
010mn507000mn503010mn5120210d1202109S040mn51E06_j1J03011020036013020nn500010nn507000nn503010nn51202
10d1202109S040nn51E06Y21_400667L0050qn530070qn550qn5W30qn5E10667L0050rn530070rn550rn5W30rn5E106ij1J
03011020036013020mo500010mo507000mo503010mo5120210d1202109S040mo51E09Z21C0zu5911C0_u5911C0.u57w18A0
0A0lo550030lo5700500W300E1lo592H40jr220.m520R00.m500070.m5R0YY2y11rx2A0ZY201we2X10000dy5Q0bo2y10rx2
G1rx2T0qq2_11091G400500b10tW3y11na390gj200hj201tW322Yw180lr200kr2J0.m5Q00y10na3G1na3S0.o200lr2919j3
1ra390qj200rj2F0wr200xr2h30ra3G1ra3S0ap200yr27k18A00A0no550030no5700500W300E1no59h2H10pn310pn320pn3
20pn380pn3P0dD30pn330pn3j10zd400_d491Zq391pn301mp21Bpn3j30Zq3G1Zq3T009i24i10iAi20tW370tW3a5006N9A00
01ey5D0000ey520mv580ey550ey5k20nv5H006N9A0001fy5D0000fy520Zy580fy550fy5k20ay5H007G8A00A0ko550030ko5
700500W300E1ko5711_40hr16P9A0001gy5D0000gy520hn580gy550gy5k20jn5H007q4BA00E0c8100B0050000jX5a10cY1w
100F0dt5y20xy1p20yy1713k10kX5i60zy1p20_y1713k10lX5i60.y1p20Wz17J8A00A0mo550030mo5700500W300E1mo59B2
C0yu5uA0Yg49B2C0yu5uA0Yg47R8A00A0mn550030mn5700500W300E1mn57R8A00A0nn550030nn5700500W300E1nn57.49A0
0A0in550030in5700500W300E0in500br17a6AA00G00B0050000qe5a10cY1w10080XX160lt5m50yx19H1C0zu59H1C0zu563
M40hy530hy521hy570hy540e800hy520hy500080hy542hy540hy5IChy500z408hy531hy560hy5Y10hy51H010hy5a20pu4L0
xo1p20sl161T40wF30dY121bx570gb150bx520vF90bx540xA00bx500pW540yf4I0yF00zF02_F00.F00WG00XG01YG01wF00Z
G10vF03aG01vF00bG00vF31yo160bx5Y10eY1K0rG615B1iy5D0iy5C0iy550iy5w10iy5615B1jy5D0jy5C0jy550jy5w10jy5
615B1ky5D0ky5C0ky550ky5w10ky5615B1kx5D0kx5C0kx550kx5w10kx561D80ly521ly570ly550ly520ly590ly550ly5O1l
y532ly568ly5B0ly5Y10ly5K0ly561340ly5Z29ly510my5628T0vFj10.F00WG00XG60vF03aG01vF10vF611c20yF642e22ly
580my5631h22ly5611h20.F611i20WG641k21ly568380dY1B0gb1s30eY1651r23ly5681d20zF6D5B1ox5D0ox5C0ox550ox5
w10ox5615B1ny5D0ny5C0ny550ny5w10ny5615B1tx5D0tx5C0tx550tx5w10tx5615B1vx5D0vx5C0vx550vx5w10vx5615B1w
x5D0wx5C0wx550wx5w10wx5615B1oy5D0oy5C0oy550oy5w10oy5615B1py5D0py5C0py550py5w10py5615B1qy5D0qy5C0qy5
50qy5w10qy59S1C0_u59S1C0_u5921C0.u5921C0.u565E40ry530ry521ry570ry550ry520ry590ry550ry5OCry500sy508r
y5B0ry5Y10ry5K0ry566B40ty561ty5D0ty520ty590ty550ty5OCty500uy508ty5B0ty5t10ty5675B1vy5D0vy5C0vy550vy
5w10vy561F40wy530wy521wy570wy550wy520wy590wy550wy5OCwy500xy508wy531wy560wy5Y10wy5K0wy57_3CA00G00B00
40YA00000yx440jg3q10gn3b100F0kn5c20zf4H0pW275BP0c8D0040YA00000yx4a10yy5C1oW2y10ry5c20zf4L0nW2p20zv1
64R40zD60_D000D0000.e110yD90jW1500O0.D00WE02XE00YE00ZE00aE01bE01zD00cE00x400yD03dE01yD00eE00yDB00t1
0XFi40Xc5x10Xu472D40ty530dV21ty570ze150ty520ty5e1Cty500zy508ty5B0ty5Y10eVI0ty510ty571M40vC61vy5D0vy
520tCe10xC00yC02zC00_C00.C00WD01XD01vC00YD00u400tC03ZD01tC00aD00tCB0vy5r10vy510uC76AP0c8D0040YA0000
0yx4a10_y5g20wy5c20zf4L0nW2p20zv17e18P0c8D00500b10u4g20hy5c20zf4L0nW2p20zv1734B1bx5D0bx5j20bx5r10bx
5714B1iy5D0iy5j20iy5r10iy5714B1jy5D0jy5j20jy5r10jy5714B1ky5D0ky5j20ky5r10ky5714B1kx5D0kx5j20kx5r10k
x571C80ly521ly570ly550ly520ly5e11ly532ly568ly5B0ly5Y10ly5I0ly510ly57_77A00G00B00500k200H00E1qs57234
0ly5Z29ly510.y5738T0tCj10_C00.C00WD60tC03ZD01tC10tC711c20xC752e22ly580.y5731h22ly5711h20_C711i20.C7
41k21ly578380dVB0ze1s30eV751r23ly5781d20yC7E4B1ox5D0ox5j20ox5r10ox5714B1ny5D0ny5j20ny5r10ny59o2Aj31
qa390oj200pj242tW380sr200tr2h30qa3G1qa3S0000sr2724B1tx5D0tx5j20tx5r10tx5714B1vx5D0vx5j20vx5r10vx571
4B1wx5D0wx5j20wx5r10wx5714B1oy5D0oy5j20oy5r10oy5714B1py5D0py5j20py5r10py59s22400r31pn37o87A00G00B00
500k200H00E1rs5988j31Yb390xj200yj2F0hs200is2h30Yb3G1Yb3T0js29.22B1Xv5uA107q87A00G00B00500k200H00E1s
s5764B1qy5D0qy5j20qy5r10qy56_F1s1E07r86A00G00B00500W300F0oo57m78A00G00B00500b10cY1w100F0Yv5m50Yy17q
79A00E0c8100B0050000_W5.200F0Zv5y20Zy16XG1s1E07n21t400D2H40Wz520000Wz521Wz570Wz542Wz510Wz590Wz542Wz
540Wz5IMWz531Wz560Wz530wp1F00E0Wz5K0Wz57s86A00G00B00500W300F0av57c87A00G0020hn5800500W300F0hn59w224
00r31pn37c87A00G0020mv5800500W300F0mv56b35B1nv5E0nv520080nv550nv56b35B1ay5E0ay520080ay550ay56Z35B1j
n5E0jn520080jn550jn57y3A70ft520001sv5D0sv5000B00500i10at5p100E1sv57X87A00G00B00500W30080XX160bv57E3
p20Yv5Z20YX1t5007_57A00G00B00500W30080XX160cv57A5B1Xz5D0.o5300x10hn5Y21.o5795B1Yz5D0pv5300x10mv5Y21
pv56v12R0yTn80ne59R1C0zu56.15B1Zz5D0Zz5C0Zz550Zz5w100632R0Wc1n80df5931C0_u5622R0bPn80Zg5921C0.u57y1
3C00H0hy5q10X57y1K40sG700G0qG00bx5d10tG00uG02vG00wG00xG00yG01zG01sG00_G00X500qG03.G01qG00WH00qGZ20m
L715B0iy5E0iy530iy5f20iy5r10iy5715B0jy5E0jy530jy5f20jy5r10jy5715B0ky5E0ky530ky5f20ky5r10ky5715B0kx5
E0kx530kx5f20kx5r10kx57p1840sG700H0ly5f12vG31zG01sG00_G00X571340ly5Z29ly510az5728T0qGj10wG00xG00yG6
0qG03.G01qG10qG711c20tG742e22ly580az5731h22ly5711h20wG711i20xG741k21ly578380dVB0ze1s30eV751r23ly578
1d20uG7D5B0ox5E0ox530ox5f20ox5r10ox5715B0ny5E0ny530ny5f20ny5r10ny5715B0tx5E0tx530tx5f20tx5r10tx5715
B0vx5E0vx530vx5f20vx5r10vx5715B0wx5E0wx530wx5f20wx5r10wx5715B0oy5E0oy530oy5f20oy5r10oy5715B0py5E0py
530py5f20py5r10py5715B0qy5E0qy530qy5f20qy5r10qy56Z5470uF200G00o3007y23C00H0ry5q10bz57x23C00H0ty5q10
cz5745B0vy5E0vy530vy5f20vy5r10vy57x23C00H0wy5q10dz57x16B0wC000D0rPj200r10rPg60db47Y34i10kn510kn540k
n5n5001sAN10es310es300010es320es310uW200ng350es3T0es330es3G0qCd11.b593es31Bes3k20eu4O0050.b5C0eu401
000eu401.b5S10.10hu4732Q0aQZ40aQ712Q0bQZ40bQ7r14B0mv5W10mv5UFmv5o1007dA8A00E0c8100B00500W300F0gv5y2
0lX27n57A00G0020Zy5800500W300F0Zy57w14B0hn5W10hn5UFhn5o1001da1G40er220nD00020Zl180040.m503090.m540d
D1003102S000.m50D0600Y1L09a58A00X10iAi20tW370tW370kr2K0.m5Q00i3009nZ1I70.m500021.m570.m541.m520090.
m56003102S000.m50D0600W11so5000H1.m5100a6107iA8A00E0c8100B00500W300F0hv5y20hY29g2A40pr220031.m5Z10j
Y2y11_y2A0kY201xe2w30_y2G1_y2T0tq26x6B70ez520000ez5000D0000fz5B0ez5500i10at5X10ez5H006f27C00E0sv5G0
by5000T0by510by5.10sv57lA6A00G00B00500W300F0iv57lA9A00G00B00500T0kW110lW1.10oZ1000F0jv57.67A00G0020
at5800500W300F0at57O470sCV00500m30at57nA9A00G00B00500T0kW110lW1.10oZ1000F0kv57H5B0gz500hz5D0jQZ40jQ
g600712Q0iy5Z40iy57k33B0iz500hz5x200712B0jz500kz59t2A40rr2h10aZ2y11wx290tW300bZ201ze2D10h30wx2G1wx2
T0vq2914v30tW370tW370tr2y40092840.s2h10ga2y11yx2A0cZ201qe2w30yx2G1yx2T0xq2917j31zx2A0tW370tW370vr2i
30zx2G1zx2T009G840.r2h10fZ2y11Yz2A0gZ201.e2w30Yz2G1Yz2T0zq26c27B0jn5000D0000lz5B0jn5q20jn5W1106c27B
0nv5000D0000mz5B0nv5q20nv5W1106I570nz530nz5F0oz5B0nz5q20nz596840Wt2h10la2y11Zy2A0wZ201ue2w30Zy2G1Zy
2T0.q2917j31ay2A0tW370tW370gs2i30ay2G1ay2T009g42B1Xv5uA109g42B1Xv5uA1098840ws2h10pd2y11fz2A0_Z201Wg
2w30fz2G1fz2T0Wr27E3B1hz5D0zW4Z40zW47V5C0080in580000in5_30nN6j45C00D0000ry5H00b10pz56j45C00D0000ty5
H00b10qz56h26B0vy5F0vy5B0vy5W20vy5a600x1007vA6A00G00B00500W300F0rv57pA6A00G00B00500W300F0sv57u21t40
07b33P0Zv5K0.W5i6007vA6A00G00B00500W300F0tv5711i10pU7x21t4007606r45C00D0000wy5H00b10rz56t55C00D0000
hy5H00b10x46B4B0bx5F0bx5B0bx5W20bx5614B0iy5F0iy5B0iy5W20iy51k12C0ar1uA0qu4624B0jy5F0jy5B0jy5W20jy57
_A6A00G00B00500W300F0.o57f63P0dt5v10dt5d5q20711k10mX57_A6A00G00B00500W300F0uv57g12700M0at56m13B0sz5
F0tz5B0sz56m1370wt530xt5R0xt57XB6A00G00B00500W300F0pv57XB6A00G00B00500W300F0vv57XB7A00G00B00500T0kW
1Y200F0wv57XB6A00G00B00500W300F0qv57XB6A00G00B00500W300F0xv57XB6A00G00B00500W300F0yv57XB9A00G00B005
00T0kW110lW1.10oZ1000F0zv57XB7A00G00B0040pU000W300F0_v57XB7A00G00B00500.20nW1000F0.v57XB7A00G00B004
0pU000W300F0Ww57XB6A00G00B00500W300F0ev57XB6A00G00B00500W300F0Xw57XB6A00G00B00500W300F0Yw57cC6A00G0
0B00500W300F0ts56M4B0ky5F0ky5B0ky5W20ky5614B0kx5F0kx5B0kx5W20kx56b6A40zD700D0000ly5H00Q2XE31bE01zD0
0cE00x461340ly5Z29ly510uz5628T0yDj10YE00ZE00aE60yD03dE01yD10yD611c20.D642e22ly580uz5631h22ly5611h20
YE611i20ZE641k21ly568380dY1B0gb1s30eY1651r23ly5681d20WE6D4B0ox5F0ox5B0ox5W20ox5614B0ny5F0ny5B0ny5W2
0ny5614B0tx5F0tx5B0tx5W20tx5614B0vx5F0vx5B0vx5W20vx5614B0wx5F0wx5B0wx5W20wx5614B0oy5F0oy5B0oy5W20oy
5614B0py5F0py5B0py5W20py57tB6A00G00B00500W300F0Wp57tB6A00G00B00500W300F0fv57tB6A00G00B00500W300F0Zw
57rB6A00G00B00500W300F0aw57rB6A00G00B00500W300F0bw57207207XD6A00G00B00500W300F0at57WD6A00G00B00500W
300F0at57n87A00G0020Zx5800500W300F0Zx57dA7A00G00B00500.20ev5000F0dv57xB6A00G00B00500W300F0cw57xB6A0
0G00B00500W300F0dw57xB6A00G00B00500W300F0ew57xB6A00G00B00500W300F0fw57xB6A00G00B00500W300F0ys57xB6A
00G00B00500W300F0_s5731k10hw57xB6A00G00B00500W300F0iw5713h20kW110lW1.10oZ17vB6A00G00B00500W300F0jw5
7vB6A00G00B00500W300F0kw57207207kD6A00G00B00500W300F0us57yB6A00G00B00500W300F0lw57yB7A00G00B00500T0
kW1Y200F0mw57307zB6A00G00B00500W300F0nw57zB6A00G00B00500W300F0Xp57zB6A00G00B00500W300F0ow57zB6A00G0
0B00500W300F0pw57vB6A00G00B00500W300F0qw57vB6A00G00B00500W300F0rw57207207207207S1j40fv57_B6A00G00B0
0500W300F0sw57_B6A00G00B00500W300F0tw57_B9A00G00B00500T0kW110lW1.10oZ1000F0uw57.D6A00G00B00500W300F
0vs57.B6A00G00B00500W300F0vw57.B6A00G00B00500W300F0ww5713h20kW110lW1.10oZ16l14B0qy5F0qy5B0qy5W20qy5
7WC6A00G00B00500W300F0Yp57WC6A00G00B00500W300F0xw57WC6A00G00B00500W300F0yw57WC6A00G00B00500W300F0zw
57WC6A00G00B00500W300F0Zp57WC6A00G00B00500W300F0_w57WC9A00G00B00500T0kW110lW1.10oZ1000F0.w57W9470jn
5D00900z3001Z31C0jq17z46B0vz5E0vz520wz500vz5f200r10vz5121C0fu16rE6A0000.o5000D1020hn5l3007pO6700H0a
t5O003E0E0at5d5q206rE6A0000pv5000D1020mv5l3007r15C0qv5D0qv5300x10at5Y21qv57g61t4007eC9A00G00B00500T
0kW110lW1.10oZ1000F0Wx57eC9A00G00B00500T0kW110lW1.10oZ1000F0Xx5181C0lf26d43B0gy5F0Xz5B0gy56d43B0ey5
F0Yz5B0ey57w13Q0ev5300_31ev57V3Q0fv5300_31fv5151C0bk26i44B0Xz5F00H0Xz5k20.o56i44B0Yz5F00H0Yz5k20pv5
7u6270031by57X25C0cy5D0xv5300x10Zx5Y21xv57y45C0mx5D0bv5300x10at5Y21bv57qL1s1E01k5E10xY410xY420xY420
xY420lW450xY4T0xY430xY4Z23xY41BxY4k20hf4h10hf420hf4.20kf47q3270pG4006_35A0hy5G00B00h10Y5w10hy56_3M4
0cI50bx5G0010bI900U0dI00eI02fI00gI00hI00iI01jI01cI00kI00Y500bI03lI01bI00mI00bIn10bx5H0vI613A1iy5y20
iy5b10iy5613A1jy5y20jy5b10jy5613A1ky5y20ky5b10ky5613A1kx5y20kx5b10kx56W3A40cI50ly5G00B00W12fI31jI01
cI00kI00Y5w10ly561340ly5Z29ly510xz5628T0bIj10gI00hI00iI60bI03lI01bI10bI611c20dI642e22ly580xz5631h22
ly5611h20gI611i20hI641k21ly568380dY1B0gb1s30eY1651r23ly5681d20eI6D3A1ox5y20ox5b10ox5613A1ny5y20ny5b
10ny5613A1tx5y20tx5b10tx5613A1vx5y20vx5b10vx5613A1wx5y20wx5b10wx5613A1oy5y20oy5b10oy5613A1py5y20py5
b10py5613A1qy5y20qy5b10qy56a55A0ry5G00B00h10yz5w10ry56a55A0ty5G00B00h10zz5w10ty5633A1vy5y20vy5b10vy
56y45A0wy5G00B00h10_z5w10wy56iM1s1E07Y117007fM1s1E07o62e30kn5k400726700400C0.z5D0W_5h10.z5e10W_56t4
4R0sz5G0at5U2at5.1006iM1s1E06x76B0t8000D00C0050WX2v90qg47sD6A00G00B00500W300F0Yx57j34B0Zx5W10Zx5UFZ
x5o1007n21j4007sD6A00G00B00500W300F0ax57207e62B0iy50007tD6A00G00B00500W300F0bx5681j10sX2613B1X_5W10
X_5v9001n1E10_b410_b420_b420_b411Y_550_b4T0_b430_b4Z23_b41B_b4k20Yy4h10Yy420Yy4.2007wD6A00G00B00500
W300F0cx51w64m10pn3e20pn370pn3a500111m10mo27yD6A00G00B00500W300F0dx5665B0xF000D0l9I00x90pr36d64R0nz
5G0at5U2at5.1006107.D6A00G00B00500W300F0ex59d6A40jr220.m530.m500070.m5u21bo3B1_o2X100u20bo3G1bo36T4
A1Z_5y200b10Z_5W60ij27sD6A00G00B00500W300F0fx57WE6A00G00B00500W300F0gx57WE6A00G00B00500W300F0hx57WE
6A00G00B00500W300F0ix5Ea95R00B00500_10iY2n10Wz59k6740pr220031.m5W31do3B1Wp2w30do3G1do39b74i10iAi20t
W370tW3a5006q5570030by5R0050by5k20sv56E2C0hc4D007bE6A00G00B00500W300F0jx57bE6A00G00B00500W300F0kx56
c35B0X9F0ut1B00W200_70wh47cE6A00G00B00500W300F0lx57S3B0Zz5E0Zz5Z40Zz56K2Q00I0ef17dE6A00G00B00500W30
0F0nx57dE6A00G00B00500W300F0ox57H07dE6A00G00B00500W300F0px57M6C00C0a_540080b_5h10a_5e10b_57eE6A00G0
0B00500W300F0qx57eE6A00G00B00500W300F0on51sIS10fh310fh320fh320fh300000Xe200w_450fh3P0dD30jj230fh3G0
oFd11yg390le200kj201_l210fh302do200eo206fh3i2Q000gv450yg3C0001gv400001yg3y20hv47A3B0vz5E0vz5Z40vz56
U1Q0r96T570c_530c_5F0c_5B0c_5q20c_56106106107lE6A00G00B00500W300F0rx56g12B1d_5W10d_59X1540rr2e31mo3
B1Yp2w30mo3G1mo39o71f40092540.s2e31er3B1rp2w30er3G1er37oE6A00G00B00500W300F0sx57oE6A00G00B00500W300
F0tx57oE6A00G00B00500W300F0ux57oE6A00G00B00500W300F0vx57oE6A00G00B00500W300F0wx57oE6A00G00B00500W30
0F0xx57oE6A00G00B00500W300F0yx57oE6A00G00B00500W300F0zx59b1540.r2e31qo3B1bp2w30qo3G1qo39w73v30tW370
tW3a5006vQ770040dt5C0at5O003E0E0at5d5q206v35B0at5E0000qv5B0at5r3106j36C00D0000xv5H0cy5k20xv5W1106dA
670gH400D00C0vt550sv5l3106Y11j10ff17uE6A00G00B00500W300F0_x57uE6A00G00B00500W300F0.x57uE6A00G00B005
00W300F0Wy57uE6A00G00B00500W300F0sn57uE6A00G00B00500W300F0un57uE6A00G00B00500W300F0wn57uE6A00G00B00
500W300F0yn5682d10D5006cA3R0pTB00b800611R0qT611R0g16a11Q0t96X1570e_530e_5F0e_5B0e_5q20e_56106106109
W1540Xs2e31vo3B1dp2w30vo3G1vo39Y1640Xs2h10tZ2y11Wy2B1Xf2w30Wy2G1Wy29j84j31Xy2Q00i30Xy2G1Xy2913j31cy
2d40cy2G1cy27bF6A00G00B00500W300F0Xy59S540ks2e31xo3B1fp2w30xo3G1xo39S640ks2h10yZ2y11ez2B1Yf2w30ez2G
1ez29n82400r31pn39m83v30tW370tW3a5007fF6A00G00B00500W300F0Yy57fF6A00G00B00500W300F0_n57fF6A00G00B00
500W300F0Wo57fF6A00G00B00500W300F0Yo57fF6A00G00B00500W300F0ao57fF6A00G00B00500W300F0co56L1R0rT611R0
j1611R0k16J570f_530f_5F0f_5B0f_5q20f_59J540ms2e31Wp3B1hp2w30Wp3G1Wp39H640ms2h10ba2y11dy2B1Zf2w30dy2
G1dy291640Xt2h10ra2y11ey2B1ye2w30ey2G1ey2913j31fy2d40fy2G1fy2913j31hy2d40hy2G1hy29J540rs2e31Yp3B1ip
2w30Yp3G1Yp39H640rs2h10da2y11gz2B1af2w30gz2G1gz291640xs2h10sd2y11hz2B1Xg2w30hz2G1hz27rF6A00G00B0050
0W300F0eo57rF6A00G00B00500W300F0go56C1R0sT611R0uT611R0wT611R0m19E540ss2e31cp3B1jp2w30cp3G1cp39B640Y
t2h10xa2y11iy2B1Wf2w30iy2G1iy29B540ts2e31dp3B1kp2w30dp3G1dp39A640ys2h10ud2y11iz2B1Yg2w30iz2G1iz26z3
3B0ez5F0ez5B0ez595540Wt2e31jr3B1sp2w30jr3G1jr31n32C0ar1uA0qu4111m10mo27r25C0080pn580000pn5_30xQ6yA5
70xD400D0000at5H0095540Xt2e31lr3B1tp2w30lr3G1lr37v15C0080tn580000tn5_30qR7v15C0080vn580000vn5_30rR7
v15C0080xn580000xn5_30vR6X2370uF30g_5X10g_57w15C0080zn580000zn5_30YS96540Yt2e31mr3B1up2w30mr3G1mr37
e15C0080.n580000.n5_30fS7e15C0080Xo580000Xo5_30gS7e15C0080Zo580000Zo5_30hS7e15C0080bo580000bo5_30nS
7e15C0080do580000do5_30oS96540Zt2e31nr3B1vp2w30nr3G1nr37T5C0080fo580000fo5_30uS7T5C0080ho580000ho5_
30zS1J1C0jq11J1C0jq17e34B1pn5D0pn5300_31pn56l2370ft5V00q20sv56uH6A0000bv5000D1020at5l3007i24B1tn5D0
tn5300_31tn57i24B1vn5D0vn5300_31vn57i25B1xn5D0xn5300_30xn500tX47i24B1zn5D0zn5300_31zn57v14B1.n5D0.n
5300_31.n57v15B1Xo5D0Xo5300_30Xo500bY47v15B1Zo5D0Zo5300_30Zo500cY47v14B1bo5D0bo5300_31bo57v14B1do5D
0do5300_31do57j15B1fo5D0fo5300_30fo500lY47j14B1ho5D0ho5300_31ho51G1C0fu11G1C0fu1Ef42C00H0Wz56.B5700
30sv5000D0030at57g6370.E30sv5I006XH6A0000xv5000D1020Zx5l300161C0lf2161C0lf26p65B0at5E0000by5B0at5r3
106p65B0Zx5E0000cy5B0Zx5r310141C0bk2141C0bk29uB770nD30wu500xu5700q310w60qu400Zg491C10to511to510to52
0to580to5P0to530to530to5j11to591to593to51Bto56u86B0ev5000D00C0dv550ev5m300613B0fv5X10fv5.20fv5942C0
yu5uA0Yg4942C0yu5uA0Yg46.63B0.o5X10.o5k2006.63B0pv5X10pv5k2007zD3B0.o5000H007yD3B0pv5000H009A1C0zu5
9A1C0zu5921C0_u5921C0_u5921C0.u5921C0.u56q52j10Xp1v90vu47lF2B10c20y47lFJ40YF610G0WFe10ZF00aF02bF00c
F00dF00eF01fF01YF00gF00y400WF03hF01WF00iF00WFZ20kL713Q0iy5j20iy5r10iy5713Q0jy5j20jy5r10jy5713Q0ky5j
20ky5r10ky5713Q0kx5j20kx5r10kx57cF740YF610x12bF31fF01YF00gF00y46a52R0cl1hA0dv47lF3B10b20gF00h_56X41
j10lb1748T0WFj10cF00dF00eF60WF03hF01WF10WF711c20ZF762e22ly580h_5731h22ly5711h20cF711i20dF741k21ly57
9380dVB0ze1s30eV751r23ly5781d20aF7F3Q0ox5j20ox5r10ox5713Q0ny5j20ny5r10ny5713Q0tx5j20tx5r10tx5713Q0v
x5j20vx5r10vx5713Q0wx5j20wx5r10wx5713Q0oy5j20oy5r10oy5713Q0py5j20py5r10py56I1j10mb1723Q0qy5j20qy5r1
0qy56M2R0mUhA0xv4612R0ek2hA0Zw4612R0.z2hA0lw4612R0yY3hA0pw4612R0hf3hA0sw47sG2B10c20i_57rG2B10c20j_5
783Q0vy5j20vy5r10vy57rG2B10c20k_59g3540ws2e31eq3B1np2w30eq3G1eq36k31R0w192540xs2e31kq3B1op2w30kq3G1
kq3621R0z1611R0_193540ys2e31lq3B1pp2w30lq3G1lq3621R0W292540zs2e31mq3B1qp2w30mq3G1mq36gJ570aI400D10B
005006x41Q0v9611Q0x97ZT1s1E0621Q0o97F3Q0iQj200r10iQ1.82B1l_5uA106yT2d100EE01e6I10.n310.n320.n320.n3
11m_550.n3T0yl230.n3Z20ej200zl201Xn210.n302ro200so206.n3d30Zy4J1Zy4.2001e72400r31pn36aT1s1E06U3B0n_
5X10n_5x9009a72400r31pn31pPN40_s2700D00H0kF30aY2T10T1tx290ow100pw101he210.q1B0nr200or2h30tx2A0020Yn
221tx2040N0to200sq2n10070lp2C009.62400r31pn3642B1o_5W1009uG4u31tW370tW3710x400953j31no3d40no3G1no39
d62400r31pn37E2Q0XSZ40WS651B1hz5611B1kz51G470030Xe200p.4uA0kv4973j31va3d40va3G1va3752Q0zW4Z40zW46kT
1s1E07f85C0080ln580000ln5e2009g42400r31pn39i2470.m531.m570.m5mA101h42400r31pn36W13B0Zz5F0Zz5jA009f4
2400r31pn3622B0vz5F0vz59u62400r31pn39k62400r31pn39d42400r31pn39v52400r31pn3913j31wo3d40wo3G1wo39s52
400r31pn39b42400r31pn39g52400r31pn39c52400r31pn39_42400r31pn39z42400r31pn37I5B1ln580040ln5400z31ln5
1G1C0jq1DaH6A0Wz5100D10B00500W30Wz56i34B0dv5F0dv5200E00611j40fv5141C0fu16cA5C00D00I0mx5k20bv5W1107e
C3B0ev5000H00712B0fv5X40fv56oF4C00G0ey500nv5.3006nF4C00G0fy500ay5.3006nF4C00G0gy500jn5.300171C0lf26
y3370uFJ00B006a76B0dt5000E00B0050dt5k20dt56zA5C00D00I0qv5k20qv5W110141C0bk27a417007kF3B0bv5000H007r
C3B0xv5000H006rK5C00E0020080ay5q2006w34B0hn500lv5Q005006w34B0mv500ov5Q005007h12Q0yW4Z40yW4712Q0_X4Z
40zX46m11B1vz59k22400r31pn39j22400r31pn39h22400r31pn39g22400r31pn36uE3B00F00t10.46uEK40.I600F0010_I
e10WJ00XJ02YJ00ZJ00aJ00bJ01cJ01.I00dJ00.400_I03eJ01_I00fJ00_IZ20oJ612d10iy5W20iy5612d10jy5W20jy5612
d10ky5W20ky5612d10kx5W20kx56wD840.I600F00i12YJ31cJ01.I00dJ00.461340ly5Z29ly510p_5628T0_Ij10ZJ00aJ00
bJ60_I03eJ01_I10_I611c20WJ642e22ly580p_5631h22ly5611h20ZJ611i20aJ641k21ly568380dY1B0gb1s30eY1651r23
ly5681d20XJ6D2d10ox5W20ox5612d10ny5W20ny5612d10tx5W20tx5612d10vx5W20vx5612d10wx5W20wx5612d10oy5W20o
y5612d10py5W20py5612d10qy5W20qy56Q3d10050hy5b10W56QK40uJO0tJ90050bx5O0vJ00wJ02xJ00yJ00zJ00_J01.J01u
J00WK00W500tJ03XK01tJ00YK00tJZ20gK612j10iy5w10iy5612j10jy5w10jy5612j10ky5w10ky5612j10kx5w10kx56I840
uJY10050ly5Q2xJ31.J01uJ00WK00W561340ly5Z29ly510q_5628T0tJj10yJ00zJ00_J60tJ03XK01tJ10tJ611c20vJ642e2
2ly580q_5631h22ly5611h20yJ611i20zJ641k21ly568380dY1B0gb1s30eY1651r23ly5681d20wJ6D2j10ox5w10ox5612j1
0ny5w10ny5612j10tx5w10tx5612j10vx5w10vx5612j10wx5w10wx5612j10oy5w10oy5612j10py5w10py5612j10qy5w10qy
56_22B0X_5F0X_5612B0n_5F0n_56wG3B00F00t10r_56wG3B00F00t10s_56V2d10vy5W20vy56oG3B00F00t10t_5643d1005
0ry5b10u_5643d10050ty5b10v_5692j10vy5w10vy5643d10050wy5b10w_56kW11s1E06n6370zIM00E006c13U0hy5E00b10
Z56c1K40mKO0lK00bx5E00O0nK00oK02pK00qK00rK00sK01tK01mK00uK00Z500lK03vK01lK00wK00lKZ20YL612U0iy5f20i
y5612U0jy5f20jy5612U0ky5f20ky5612U0kx5f20kx56U840mKP0ly5E00Q2pK31tK01mK00uK00Z561340ly5Z29ly510x_56
28T0lKj10qK00rK00sK60lK03vK01lK10lK611c20nK642e22ly580x_5631h22ly5611h20qK611i20rK641k21ly568380dY1
B0gb1s30eY1651r23ly5681d20oK6D2U0ox5f20ox5612U0ny5f20ny5612U0tx5f20tx5612U0vx5f20vx5612U0wx5f20wx56
12U0oy5f20oy5612U0py5f20py5612U0qy5f20qy56W13U0ry5E00b10y_56W13U0ty5E00b10z_5632U0vy5f20vy56W13U0wy
5E00b10__56m7270sJM906kX11s1E06o7370kKV005001i72B1l_5uA10111m10mo26h12d10qDW2006e12j10dh3w1001f5270
031._56W4H40W.530W.520fx580W.540W.510fx510W.590fx540W.510W.540W.5IMW.531W.560W.5Y10W.5100I0W.59vL5P
00v100a10tW300me2F109Y53P00v100r10tr26sT7A1X.5000D10290500w100b10X.519470030Xe200p.4uA0kv4111m10mo2
66G40Y.530Y.520yn580Y.540Y.510yn510Y.590yn540Y.510Y.540Y.5IMY.531Y.560Y.5Y10Y.5K0Y.561G40Z.530Z.520
.x580Z.540Z.510.x510Z.590.x540Z.510Z.540Z.5IMZ.531Z.560Z.5Y10Z.5K0Z.561G40a.530a.520Wy580a.540a.510
Wy510a.590Wy540a.510a.540a.5IMa.531a.560a.5Y10a.5K0a.59Y55P00v100b10Wm270re2a50Ys29Z53P00v100r10Zs2
925j31xa3A0Xm2y30xa3G1xa3T0bs2924j31ya3Q0cs2i30ya3G1ya365G40b.530b.520ao580b.540b.510ao510b.590ao54
0b.510b.540b.5IMb.531b.560b.5Y10b.5K0b.561G40c.530c.520co580c.540c.510co510c.590co540c.510c.540c.5I
Mc.531c.560c.5Y10c.5K0c.561G40d.530d.520Yy580d.540d.510Yy510d.590Yy540d.510d.540d.5IMd.531d.560d.5Y
10d.5K0d.5955j31gb3A0dm2y30gb3G1gb3T0ns2954j31hb3Q0os2i30hb3G1hb3925j31nb3A0gm2y30nb3G1nb3T0ps2924j
31ob3Q0qs2i30ob3G1ob365G40e.530e.520go580e.540e.510go510e.590go540e.510e.540e.5IMe.531e.560e.5Y10e.
5K0e.59s72B1Xv5uA109s72B1Xv5uA106hY11s1E06U270gHM006Z13T0f.500vz5f2006X93U9050bv5i10at56yL5C00E00B0
050ey5k2006i42B0ay5R006yL5C00E00B0050gy5k2001ul1C40qs52002001205N03001201G08J0600850J0qs51ul1C40rs5
2002001205N03001201G08J0600850J0rs51ul1C40ss52002001205N03001201G08J0600850J0ss56bF3B0at5E00Y4106l8
2U9050dv56l82U9050dv56xB2700V006x83U9050xv5i10Zx56f11d10kE6f11j10vW36k22U00q10_46q3J40iHO0hHF00O0jH
00kH02lH00mH00nH00oH01pH01iH00qH00_400hH03rH01hH00sH00hHZ20WI611e30iy5611e30jy5611e30ky5611e30kx56c
2740iHP00f12lH31pH01iH00qH00_46k23U00p10qH00g.5628T0hHj10mH00nH00oH60hH03rH01hH10hH611c20jH642e22ly
580g.5631h22ly5611h20mH611i20nH641k21ly56k23U00p10qH00g.5651r23ly5681d20kH6D1e30ox5611e30ny5611e30t
x5611e30vx5611e30wx5611e30oy5611e30py5611e30qy56S1d10hG6l22U00q10h.56l22U00q10i.5641e30vy56l22U00q1
0j.5651d10xH611d10qI611d10jJ611d10cK611d10_K7vZ11s1E0621d10pF611d10bH6A8K0ze140c8I0YA10yx4v100y30zf
4L0nW2p20ko21r22400r31pn31y94B0Zl100_v1D00Y4101y94B0Zl100_v1D00Y4101u2270031._5111m10mo21n22400r31p
n39Z24j31Xb3Q00i30Xb3G1Xb3913j31bb3d40bb3G1bb3913j31cb3d40cb3G1cb3913j31fb3d40fb3G1fb3913j31lb3d40l
b3G1lb3913j31sb3d40sb3G1sb3913j31tb3d40tb3G1tb3913j31ub3d40ub3G1ub3913j31vb3d40vb3G1vb3913j31yb3d40
yb3G1yb3913j31zb3d40zb3G1zb3913j31_b3d40_b3G1_b3913j31Xc3d40Xc3G1Xc3913j31Yc3d40Yc3G1Yc3913j31Zc3d4
0Zc3G1Zc3913j31ac3d40ac3G1ac31L2C0ar1uA0qu41L2C0ar1uA0qu4121C0jq1121C0jq1121C0fu1121C0fu1121C0lf212
1C0lf2Dm73A10I0Wz5l300131C0bk2131C0bk26i11e3006lZ11s1E06jZ11s1E06jZ11s1E06iZ11s1E06iZ11s1E0Fw8H10k.
511k.510k.520k.520k.550k.570l.5H0k.530k.530k.5P1k.5I1k.591k.584k.51Dk.5J0co2t2g301e1270031._5F2G10m
.511m.510m.520m.520m.550m.570n.5H0m.530m.530m.5P1m.5I1m.591m.584m.51Dm.5J0go21sg1F40et554050040g82F
020ue50001003R0C40600850J0et5m30ar2p20WX5F2G10o.511o.510o.520o.520o.550o.570o.5H0o.530o.530o.5P1o.5
I1o.591o.584o.51Do.5J0o.5F1G10p.511p.510p.520p.520p.550p.570p.5H0p.530p.530p.5P1p.5I1p.591p.584p.51
Dp.5J0p.5F1G10q.511q.510q.520q.520q.550q.570q.5H0q.530q.530q.5P1q.5I1q.591q.584q.51Dq.5J0q.5F1G10r.
511r.510r.520r.520r.550r.570r.5H0r.530r.530r.5P1r.5I1r.591r.584r.51Dr.5J0r.5F1G10s.511s.510s.520s.5
20s.550s.570s.5H0s.530s.530s.5P1s.5I1s.591s.584s.51Ds.5J0s.5F1G10t.511t.510t.520t.520t.550t.570t.5H
0t.530t.530t.5P1t.5I1t.591t.584t.51Dt.5J0t.5F1G10u.511u.510u.520u.520u.550u.570u.5H0u.530u.530u.5P1
u.5I1u.591u.584u.51Du.5J0u.5F1G10v.511v.510v.520v.520v.550v.570v.5H0v.530v.530v.5P1v.5I1v.591v.584v
.51Dv.5J0v.5F1G10w.511w.510w.520w.520w.550w.570w.5H0w.530w.530w.5P1w.5I1w.591w.584w.51Dw.5J0w.5F1G1
0x.511x.510x.520x.520x.550x.570x.5H0x.530x.530x.5P1x.5I1x.591x.584x.51Dx.5J0x.5F1G10y.511y.510y.520
y.520y.550y.570y.5H0y.530y.530y.5P1y.5I1y.591y.584y.51Dy.5J0y.5F1G10z.511z.510z.520z.520z.550z.570z
.5H0z.530z.530z.5P1z.5I1z.591z.584z.51Dz.5J0z.5F1G10_.511_.510_.520_.520_.550_.570_.5H0_.530_.530_.
5P1_.5I1_.591_.584_.51D_.5J0_.5F1G10..511..510..520..520..550..570..5H0..530..530..5P1..5I1..591..5
84..51D..5J0..5Fwv1G00030ko50004101401602F0300100300QH0600850J0ko55D000jo2Fzv1G00030in5000410140160
2F0300100300QH0600850J0in55D000io2F21_40ko5F21_40qn2F.v1F00030mo50004101401602F0300100300QH0600850J
0mo55D06O170iE6WO4B10D00300.300F51_40sn263170fG61170vH61170pI61170iJ61170bK61170zK61170mF61170ZH1g1
2B1l_5uA101g12B1l_5uA101y4A40ir2610Q0080po2y11_n3A0qo201zo2w30_n3G1_n3T0pq2ACG10WW611WW610WW620WW62
0WW650WW670WW6H0WW630WW630WW6P1WW6I1WW691WW684WW61DWW6J00A1F10fu511fu510fu520fu520fu550fu570fu5H0fu
530fu530fu5P1fu5I1fu591fu584fu51Dfu515470030Xe200p.4uA0kv415470030Xe200p.4uA0kv4A3F10XW611XW610XW62
0XW620XW650XW670XW6H0XW630XW630XW6P1XW6I1XW691XW684XW61DXW6A1F10YW611YW610YW620YW620YW650YW670YW6H0
YW630YW630YW6P1YW6I1YW691YW684YW61DYW6A10AJ1_400AN1_4006Y54A10D0c8q300i30lX21B6400h10pn310bAc22pn35
0pn3a50011340ir2j100d21zo2111m10po21rTC7002108J0h100a10mw100nw120000nt1B0Wq200kr2J00Q0013540qr2e31j
o3B1Xp2w30jo3G1jo3111m10uo21J270031._51J270031._515C40.s2h10ga2y11_x290uw100vw101qe210vt1B0zr200_r2
h30_x2G1_x2T0yq215540Ws2e31so3B1cp2w30so3G1so3111m10wo212540ls2e31zo3B1gp2w30zo3G1zo31xh1B40ut55405
006G03001003R0C40600850J0ut51D1o1001A2400r31pn3113j31mo3d40mo3G1mo31kR67003008J0h100e100X1001bA3B10
DD0r310192400r31pn3113j31vo3d40vo3G1vo3113j31wo3d40wo3G1wo3158j31.a390vj200wj2F0ds200es2h30.a3G1.a3
T0fs21cA3B10DD0r3101C2400r31pn3113j31Wp3d40Wp3G1Wp3113j31Xp3d40Xp3G1Xp31dA3B10DD0r310113j31Zp3d40Zp
3G1Zp3113j31cp3d40cp3G1cp31eA3B10DD0r310113j31gp3d40gp3G1gp3113j31hp3d40hp3G1hp31sh1C40ot55405N0300
1003i1060085000ZW6H1ot5n30Yr2Z30lp21n93B10DD0r3101n93B10DD0r3101n93B10DD0r3101n93B10DD0r310113j31oq
3d40oq3G1oq3113j31jr3d40jr3G1jr3113j31lr3d40lr3G1lr3113j31mr3d40mr3G1mr3113j31nr3d40nr3G1nr3113j31o
r3d40or3G1or31jz17400210BQ03l10600Y100I201p65B10CE0h100a10ao230012450r5y30kn3C00R0fQ1P940mr2e31sx29
0tW300fe201ge2D10h30sx2G1sx2T0rq21wP6B10CE0h100a10qw1300W110168C0ZRC00v100P1jt3D00v30jt3G1jt3Q0vh41
3740ur2e31xx2A0me201_e2w30xx2G1xx2T0wq21dS7700310CE0h100a10yw1300W110135C0jSW31sc4d40sc4G1sc4Q0u.41
11C0lS111C0xS111C0yS1sz17400210BQ03l10600Y100I201B150t5135C0fX4W31bZ4d40bZ4G1bZ4Q0cv4141C0eY4111C0g
Y4111C0oY4111C0pY417450w5y30_p3C00R0vW41J3u30pn380pn3a5001v12B10Q001.14P00v100b10qo22001.15u30tW300
ZY234tW3710x4001K3u30tW380tW3a5001.14P00v100b10vo22001ZQ77003008J0h100b10bZ2200CL01hC840ur22003008J
0h100c11Zp2000X10012740.s2h10ga2y11.x2A0dZ201qe2w30.x2G1.x21fI6B10CE0h100b10gZ2200W1101N3u30tW380tW
3a5001qH77003008J0h100b10uZ2200X1001t1540as2K00v100c11ep200012740Wt2h10la2y11Yy2A0vZ201ue2w30Yy2G1Y
y2114j31by2A0xZ2y30by2G1by21pH6B10CE0h100b10zZ2200W1101oH6B10CE0h100b10_Z2200W11011740Xt2h10ra2y11g
y2A0ca201ye2w30gy2G1gy21YH6B10CE0h100b10ea2200W1101L1C001hi1940Xu55405N03001003i10600850J0Xu51W44P0
0K00a100d5q201fj1940_t55405N03001003i10600850J0_t51_h1940Yu55405N03001003i10600850J0Yu51ej1940.t554
05N03001003i10600850J0.t51P3400h10pn3e22pn31i23P00v100e100113j31bo3d40bo3G1bo31A6400h10tW3y11na3A2t
W3w30na3G1na3123j31do3d40do3G1do31l23P00v100e1001l23P00v100e100143j31qa3d40qa3G1qa3111v30me21R2400r
31pn3124j31sa3A0.l2y30sa3G1sa3143j31ta3d40ta3G1ta31p23P00v100e1001p23P00v100e1001p23P00v100e100144j
31va3A0Wm2y30va3G1va3111v30tW31U2400r31pn3123j31wa3d40wa3G1wa3114j31za3A0Ym2y30za3G1za3123j31_a3d40
_a3G1_a3114j31Wb3A0Zm2y30Wb3G1Wb3114j31Zb3A0am2y30Zb3G1Zb3133j31ab3d40ab3G1ab31w23P00v100e1001w23P0
0v100e1001w23P00v100e100144j31bb3A0bm2y30bb3G1bb3111v30tW31y23P00v100e100124j31db3A0cm2y30db3G1db31
33j31eb3d40eb3G1eb3114j31ib3A0em2y30ib3G1ib3123j31jb3d40jb3G1jb3114j31kb3A0fm2y30kb3G1kb3123j31mb3d
40mb3G1mb3114j31pb3A0hm2y30pb3G1pb3123j31qb3d40qb3G1qb3114j31rb3A0im2y30rb3G1rb31b33P00v100e1001b33
P00v100e1001b33P00v100e100144j31wb3A0jm2y30wb3G1wb3163j31xb3d40xb3G1xb3114j31.b3A0km2y30.b3G1.b3123
j31Wc3d40Wc3G1Wc31f33P00v100e1001f33P00v100e1001f33P00v100e100113j31Zq3d40Zq3G1Zq31f33P00v100e1001f
33P00v100e1001f33P00v100e1001f33P00v100e1001f33P00v100e100113j31er3d40er3G1er31g33P00v100e1001g33P0
0v100e1001g33P00v100e1001g33P00v100e1001g33P00v100e10010C10t.410md520md520md580md5T0md530md5o10yk5G
3md51Bmd5O0yk5c50nd5Bzl1I40020dt500012dt570060dt510090dt5A0dt53K010014015000dt5060600Y100K00B14k10w
z440ph4d60cu2p20kv2B14k10xz440qh4d60du2p20lv2Bjb1F40020ow5C00500210J0ow5J40100140150160600J0ow5E002
I0Bjb1F40020pw5C00500210J0pw5J40100140150160600J0pw5E002I0Bfb1F40020qw5C00500210J0qw5J4010014015016
0600J0qw5E002I0Bfb1F40020rw5C00500210J0rw5J40100140150160600J0rw5E002I0B20B20B20B20B20B20B20B20B20B
20B1D71aW612aW6C0aW610aW6B0aW642aW631aW6N0aW610aW650aW660aW6X10aW6G0aW6B1D71bW612bW6C0bW610bW6B0bW6
42bW631bW6N0bW610bW650bW660bW6X10bW6G0bW6B10B10B10B10B10B10B10B10B0I10lf420ya510mx230rW320v_2B0cW6K
0za540cW6V0cW6E0jd400kd430yk5v10yk5C0lx411_a5a20.a4J0mx490Wb41qe1I40020lt5000B60210F0ec530lt50N0100
14000cV050160600J0lt5E002I0k50fv2BT480dt5G00v100d5q20B12k10yz440rh4132y300Q0rVBXd1D40020fv5C60210J0
fv5J401001B0160600J0fv5E002I0B_c1D40020aw5C60210J0aw5J401001B0160600J0aw5E002I0B101uc1F40020fw5C602
10F0qn530fw50N0100140150160600J0fw5E002I01xc1E40020ys5C00500210J0ys50N01001B0160600J0ys5E002I01xc1E
40020_s5C00500210J0_s50N01001B0160600J0_s5E002I0131k10rn51tc1E40020jw5C00500210J0jw50N01001B0160600
J0jw5E002I01tc1E40020kw5C00500210J0kw50N01001B0160600J0kw5E002I01201209rf1D40020io500070io5400720ES
01001401D0600Y100K00Glo1D40020dt500010dt5900800K003K01001401D06Z10K00G14k10sY540tv4d60qz2p20oX3G14k
10tY540uv4d60rz2p20pX39tf1D40020jo500070jo5400720ES01001401D0600Y100K001if1F40020oo5C60210F0030oo50
N01001B0160600J0oo5E00200H001LD70Yv522Yv5E0Yv5B0Yv541Yv500030Yv5O0Yv510Yv5C0Yv5X10Yv5G0Yv5X60iv21he
1G40020Zv5000B0040f8000210F0vy430Zv50N01001B01606Z102I0w20xu211580Zv5G00K0wy4j20Zv5_3001hf1F40020av
5C60210F0030av50N01001B0160600J0av5E00200H001wd1D40020ev5C60210J0ev50N01001B0160600J0ev5E002I01vd1D
40020Yw5C60210J0Yw50N01001B0160600J0Yw5E002I0H147h103EbD6F0X1H01qe1E40020rv5C60210F0030rv50N01001B0
160600J0rv5E002I01ke1E40020sv5C60210F0030sv50N01001B0160600J0sv5E002I01qe1E40020bv5C60210F0030bv50N
01001B0160600J0bv5E002I01pe1E40020tv5C60210F0030tv50N01001B0160600J0tv5E002I0111i10jU1C380Yv5g200x7
001501le1E40020uv5C60210F0030uv50N01001B0160600J0uv5E002I01le1E40020pv5C60210F0030pv50N01001B016060
0J0pv5E002I01le1E40020vv5C60210F0030vv50N01001B0160600J0vv5E002I01ke1E40020qv5C60210F0030qv50N01001
B0160600J0qv5E002I01ke1E40020xv5C60210F0030xv50N01001B0160600J0xv5E002I01ke1E40020yv5C60210F0030yv5
0N01001B0160600J0yv5E002I019871_v512_v5E0_v5B0_v550_v540_v5d10_v5X10_v51ie1F40020Ww5C60210D0jU10030
Ww50N01001B0160600J0Ww5E002I01he1E40020Xw5C60210F0030Xw50N01001B0160600J0Xw5E002I01ee1E40020Zw5C602
10F0030Zw50N01001B0160600J0Zw5E002I01be1E40020bw5C60210F0030bw50N01001B0160600J0bw5E002I01101ce1E40
020cw5C60210F0030cw50N01001B0160600J0cw5E002I01ce1E40020dw5C60210F0030dw50N01001B0160600J0dw5E002I0
1ce1E40020ew5C60210F0030ew50N01001B0160600J0ew5E002I01Ye1E40020iw5C60210F0030iw50N01001B0160600J0iw
5E002I01zd1E40020lw5C60210F0030lw50N01001B0160600J0lw5E002I01yd1E40020nw5C60210F0030nw50N01001B0160
600J0nw5E002I01cd1E40020cv5C60210F0030cv50N01001B0160600J0cv5E002I01.r1B1o20K0040od53B0CF0300Fk10R0
od59j2000od51E0113j30pd5e40qd5t20rd5113j30sd5e40td5t20ud5113j30vd5e40wd5t20xd51ud1E40020sw5C60210F0
030sw50N01001B0160600J0sw5E002I01ud1E40020tw5C60210F0030tw50N01001B0160600J0tw5E002I01td1E40020vw5C
60210F0030vw50N01001B0160600J0vw5E002I01td1E40020ww5C60210F0030ww50N01001B0160600J0ww5E002I01rd1E40
020xw5C60210F0030xw50N01001B0160600J0xw5E002I01rd1E40020yw5C60210F0030yw50N01001B0160600J0yw5E002I0
1rd1E40020zw5C60210F0030zw50N01001B0160600J0zw5E002I01qd1E40020_w5C60210F0030_w50N01001B0160600J0_w
5E002I09.1AQ0lt50C050000gf5300W10uY1600y10pY151lt5m50fX3Gy28800H0ow50C0500400d100X100W11ow5Gy28800H
0pw50C0500400d100X100W11pw5Go28800H0qw50C0500400d100X100W11qw5Go28800H0rw50C0500400d100X100W11rw5G2
0G20G20G20G20G20G20G20G20G20Gy28800H0aW60C0500400d100X100W11aW6Gq28800H0bW60C0500400d100X100W11bW6G
10G10G10G10G10G10G10G10If2A700400C0i8K0eZ540gw4V0wY1f20050dt5t20nY3p20bd3I14k10fZ540hw4d60oY3p20cd3
I14k10gZ540iw4d60pY3p20dd3HZ21s1EfEH11s1EcG1d13j30nf5e40nf5t20nf5113j30of5e40pf5t20qf5113j30rf5e40s
f5t20tf5113j30uf5e40vf5t20wf5H51s1EtHH11s1EnI133j30zg5e40zg5t20zg5113j30_g5e40.g5t20Wh5113j30Xh5e40
Yh5t20Zh5113j30ah5e40bh5t20ch5H51s1EgJH11s1EZKH11s1ExKH11s1EjFH11s1EXH1m3910fg440eg440dW610010dW69w
10w20by4d20hb4T0ib492F70hD30eW680Wh340i600eW6C0gVEE0E0sf4e10y_2X10eW6a20co3A0mh4H0bc3i10Wt3b10kW51p
23800p300Q0rV19710vx2W31090030vx2a400e20sv2E0Xd51o23800p300Q0sV948B0fW680hh350fW6X30__2X10fW6a20lo3
A0ai4_10wt3915P0j6Y30._2c30bi4S0mZ3o20kY5917K0ih340f6Y30W.2c30tW5S0hn3i10yt3b10ix49zLB15020080060j6
I80U0sf4E109E01B0t30Xh3o20uz41Z23800p300Q0rV958B0gW680mh350gW6X30b.2X10gW6a20uo3A0li4_10hu3915P0j6Y
30c.2c30oi4S0mZ3o20kY5918K0nh340f6Y30d.2c30cX5A0ri4H0hn3i10ku3b10ix4914K0oh3d30e.2n30si4_10lu3914K0
vh3d30f.2n30wi4_10ru3914K0wh3d30g.2n30xi4_10su3968B0hW680yh350hW6X30j.2X10hW6a20.o3A0Yj4_10Zv3918K0
zh340f6Y30k.2c30uX5A0bj4H0hn3i10cv3b10ix4914K0_h3d30l.2n30fj4_10fv3914K0li3d30m.2n30yj4_10wv3914K0m
i3d30n.2n30zj4_10xv3914K0ti3d30o.2n30ak4_10Xw3914K0ui3d30p.2n30bk4_10Yw3978B0iW680vi350iW6X30s.2X10
iW6a20bp3A0ik4_10tw3918K0wi340f6Y30t.2c30ZY5A0qk4H0hn3i10xw3b10ix4914K0lj3d30u.2n30_l4_10ux3914K0mj
3d30v.2n30Ym4_10xx3914K0.j3d30w.2n30um4_10hy3918B0jW680jk350jW6X30z.2X10jW6a20eY5A0Yp4_10.z39L2C0yu
5uA0Yg49t39P0h800Zv50C050000nY5300d100Y21Zv5y20ZW39i21t4001T410lZ3l30lZ3j60ec3E0ze59P1C0zu512410cW3
l30cW3j60yX3E0lf5921C0_u512410ku1l30ku1j60u_1E0hg5921C0.u512410ol1l30ol1j60mo1E0xg51a1310Ym3l30Ym3y
60uh511310yf3l30yf3y60Wk51r4C70iV20000kW60F0B0jV500400d10kW6o10lW6900z50ty400tb49V970031mW670050mW6
X30z_2W11mW6a20Zt3A00_10at31Zi1E40020wv5000B60210F0030wv50N000kV0001B01606Z102I011970zv522zv5E0zv5B
0zv541zv540zv5Q0lVC0zv5o10mV11A70.v522.v5E0.v5B0.v541.v540.v5O0.v510.v5C0.v5o10qV946B1nW6D0nW6X30X.
2W11nW6a20_t3f20Wu3953d10h4q20Z.2c30Xl31j35800Y20kV10lVk100G0mV11970mw522mw5E0mw5B0mw541mw540mw5Q0m
w5C0mw5o10mw5946B1oW6D0oW6X30h.2W11oW6a20vu3f20xu3952y30i.2c30Yl314770uw522uw5E0uw5B0uw541uw540uw5d
10uw51d35800Y20kV10lVk100G0mV11770Wx522Wx5E0Wx5B0Wx541Wx540Wx5d10Wx511770Xx522Xx5E0Xx5B0Xx541Xx540X
x5d10Xx5956B1pW6D0pW6X30q.2W11pW6a20dw3f20fw3972y30r.2c30bl3916B1qW6D0qW6X30x.2W11qW6a20oy3f20qy393
2y30y.2c30dl3922y30_.2c30fl316770.w522.w5E0.w5B0.w541.w540.w5d10.w5JV8700400X10dh5a10wY1Z20oW150050
lt5h50zc39X1570rW622rW6D0rW6H00m31rW69y18Q0Yv50C0550W10uY1600y10051Yv5m50kX3GW53P00v100d5q20G12k10u
Y540vv4Gk58800H0fv50C0500400d100X100W11fv5Gj58800H0aw50C0500400d100X100W11aw5G109k58800H0fw50C05004
00d100X100W11fw59k58800H0ys50C0500400d100X100W11ys59k58800H0_s50C0500400d100X100W11_s5931k10rn59i58
800H0jw50C0500400d100X100W11jw59i58800H0kw50C0500400d100X100W11kw5920920Gl.1B1502003C000qs50G010013
01H08L04X10J1qs5Gl.1B1502003C000rs50G01001301H08L04X10J1rs5Gl.1B1502003C000ss50G01001301H08L04X10J1
ss5Iz34700400m40050ow5Iz34700400m40050pw5Ip34700400m40050qw5Ip34700400m40050rw5I20I20I20I20I20I20I2
0I20I20I20Iz34700400m40050aW6Ir34700400m40050bW6I10I10I10I10I10I10I10I101f31B401v677301F0B0jW1A00d1
00X10kt5m50X_41a6870rW621rW6000E0rW6B5000rW640rW6d1009r28B0sW680050sW6X300X10sW6a20oo3A0ci4_10xt39n
16B1tW6D0tW6X300W11tW6a20Yu3f20Zu3926B0uW6E0uW6Z40uW6a20to3A0mi4_10iu3914P0j6f60pi4S0mZ3o20kY5915P0
f6f60dX5S0hn3i10qu3b10ix4945B1vW6D0vW6Y41vW6a20tu3f20yu39j22B1Xv5uA10961Z70Zl31t55730E0e8D00A00e60f
p1976B0wW6E0wW6Z40wW6a20_o3A0.i4_10Yv3914P0j6f60Zj4S0mZ3o20kY5916P0f6f60tX5A0dj4H0hn3i10ev3b10ix491
2k70ij4_10iv3912k70Yk4_10Ww3912k70dk4_10aw3985B1xW6D0xW6Y41xW6a20bw3f20ew39B1Z70al3986B0yW6E0yW6Z40
yW6a20ap3A0gk4_10sw3916P0f6f60YY5A0mk4H0hn3i10ww3b10ix4912k70sk4_10zw3912k70Wm4_10wx3912k70bm4_10_x
3912k70wm4_10jy3912k70zm4_10ly3985B1zW6D0zW6Y41zW6a20my3f20py39A1Z70cl3996B0_W6E0_W6Z40_W6a20ep3A0Y
n4_10.y3916P0f6f60dY5A0fn4H0hn3i10Yz3b10ix4912k70_o4_10_z3912k70ap4_10X_3912k70fq4_10s_3965B1.W6D0.
W6Y41.W6a20t_3f20w_3981Z70el3936B0WX6E0WX6Z40WX6a20fY5A0xr4_10p.3931Z70gl39g77800H0oo50C0550d100X10
0W11oo59o33P00K0oY5i6009e77800H0av50C0550d100X100W11av59e78800H0ev50C0500400d100X100W11ev59e78800H0
Yw50C0500400d100X100W11Yw59o46Q0bv50C0550d100y10pY151bv59r23p200Z20qY1t5009j46Q0cv50C0550d100y10pY1
51cv59.x1915020037050ts50G0180OL04W10K1ts59_x1915020037050us50G0180OL04W10K1us59109.x1915020037050v
s50G0180OL04W10K1vs5JB7700400C0i8K0cZ5k30050Zv5t20sZ3J_21t4009r43P0.m5v10.m5i5p20912C0yu5uA0Yg4921C
0zu5911C0_u5911C0.u5Bj9970000dt5120C0j81C0A00W10vY1600X100B14k10wz440ph4d60cu2p20kv2B14k10xz440qh4d
60du2p20lv21c5C10gg440aZ340yb500zb500mg3e1E0T0be400ce4c20_b570hg4Z20_b5J0cy49q1270031.m596470.m531.
m570.m5mA109f33P00K0oY5i60092870b_531b_570b_541b_5C0b_5h10b_5e10b_5W11b_59s16Q0Zw5000H00i100X100W11
Zw59_77800H0rv50C0550d100X100W11rv59v77800H0sv50C0550d100X100W11sv59P1t4009_77800H0tv50C0550d100X10
0W11tv5911i10sU9R1t4009509yg290602003C01G0180OL04X10610B1.o59.77800H0uv50C0550d100X100W11uv59.77800
H0pv50C0550d100X100W11pv59.77800H0vv50C0550d100X100W11vv59h46Q0wv50C0550O0zW1E00Y21wv59W87800H0qv50
C0550d100X100W11qv59W87800H0xv50C0550d100X100W11xv59W87800H0yv50C0550d100X100W11yv59k48Q0zv50C0550O
0zW110_W1C00o10qZ1F1zv59C470_v522_v5D0_v5Y41_v59l46Q0.v50C0550d100o10WX1F1.v59Y88800H0Ww50C040sU050
d100X100W11Ww59Y87800H0Xw50C0550d100X100W11Xw5Ja15A1rW6E0rW6H00n30rW640rW69fh290602003C01G0180OL04X
10610B1Wp59N470Zw520Zw5E00X7009Z87800H0bw50C0550d100X100W11bw59109a87800H0cw50C0550d100X100W11cw59a
87800H0dw50C0550d100X100W11dw59a87800H0ew50C0550d100X100W11ew59a87800H0iw50C0550d100X100W11iw5913h2
0zW110_W1.10qZ19b87800H0lw50C0550d100X100W11lw59v46Q0mw50C0550O0zW1E00Y21mw59c87800H0nw50C0550d100X
100W11nw59s11t4009rh290602003C01G0180OL04X10610B1Xp59Z87800H0sw50C0550d100X100W11sw59Z87800H0tw50C0
550d100X100W11tw598570uw522uw5D0uw5H0uw5m31uw59a87800H0vw50C0550d100X100W11vw59a87800H0ww50C0550d10
0X100W11ww5913h20zW110_W1.10qZ191570Wx522Wx5D0Wx5H0Wx5m31Wx591570Xx522Xx5D0Xx5H0Xx5m31Xx59zh2906020
03C01G0180OL04X10610B1Yp59e87800H0xw50C0550d100X100W11xw59e87800H0yw50C0550d100X100W11yw59e87800H0z
w50C0550d100X100W11zw59Wi290602003C01G0180OL04X10610B1Zp59f87800H0_w50C0550d100X100W11_w597570.w522
.w5D0.w5H0.w5m31.w5Jj16700400c20wY1f20050Yv5h50Yd3Io73P00v100d5q20I12k10hZ540jw4Io44700400m40050qs5
I_44700400m40050fv5Iz44700400m40050aw5I10J_44700400m40050fw5J_44700400m40050ys5J_44700400m40050_s5J
31k10rn5Jy44700400m40050jw5Jy44700400m40050kw5J20J20Iz44700400m40050rs5Iz44700400m40050ss51a44d100q
20lt5Q0XZ1r4001m7B10.Z380ak1h1E0E0sf4v10.900WVk20tx4X10lW2L0tf410Yb5x10eg31h2A10Xg440Zs340pb500.f40
0Zs3x40Wg400Xg4700Z20Xg4J0012110Za311410da3x60Wz4X10qX2p20wg311110ia31l2860bh410ch421dW6000y40rc570
0Z20rc5J0jz412510la380fk1o60pz4X10fj2p20.g31h43P00K0wy4i6001o23B0000Yd5b50v_49v7A70oE30XX680gy450XX
621kA80gVEE0v20XX6l20qt3_10fs391370hDs40YX6l20jg4131C0gd59w22B1Xv5uA10Jl25700400g40oW150050bv59r24k
100S0zW110_W1.10qZ1JX13p200Z20pW1t500Jp15700400g40oW150050cv59X88A2ZX6D0ZX6C0eUEE0u21ZX6k40pp330pp3
E0pp3916A2aX6D0aX6Y41aX6k40sp330sp3E0sp3Jp34700400m40050oo5Je33P00K0dZ5i600Jp34700400m40050av5Jp347
00400m40050ev5Jp34700400m40050Yw51I410ge3x60lW5X10vo1p20tl311410le3x60YX5X10jp1p20zl31R580lt5200d20
vY1e100Q0jY11P110ee31aB7730100C0g81C0A00d100X10Zv51P110je313110ne312110oe311510080ik1o60my4X10t6p20
tg3114A0lk1o60az4X10oOp20xg31o8870bX631bX6E0bX611bX680bX650bX68E0t10bX61q34B0Zl100_v1D00Y410154100x
60fz4X10uX2p20zg313770cX631cX6E0cX611cX680cX650cX6k20cX6124A0ok1o60c_4X10WRp20Zh31W14k100S0kV10lV.1
0mV183z60d_4X10z6p20bh31e13B0000xh4y40f_4193z60j_4X10uOp20ch316770dX631dX6E0dX611dX680dX650dX6k20dX
611770eX631eX6E0eX611eX680eX650eX6k20eX6193z60r_4X10wY2p20eh39b11K009b11K001N4100x60z_4X10lj2p20gh3
15770fX631fX6E0fX611fX680fX650fX6k20fX69x86P00v100e10hh3c300S00o2001D3z60d.4X10ZSp20lh31B1C0ki49v86
P00v100e10mh3c300S00o200913K0ph3d30qh3m50mu3914K0rh3d30sh3n30ti4_10nu3914K0th3d30uh3n30ui4_10ou31k1
1C009v86P00v100e10yh3c300S00o200914K0.h3d30Wi3n30gj4_10gv3914K0Xi3d30Yi3n30kj4_10jv3914K0Zi3d30ai3n
30lj4_10kv3914K0bi3d30ci3n30mj4_10lv3914K0di3d30ei3n30nj4_10mv3963K0fi3d30gi3m50pv3914K0hi3d30ii3n3
0pj4_10qv3914K0ji3d30ki3n30qj4_10rv3914K0ni3d30oi3n30_j4_10yv3914K0pi3d30qi3n30.j4_10zv3914K0ri3d30
si3n30Wk4_10_v39_86P00v100e10vi3c300S00o200914K0xi3d30yi3n30zk4_10Wx3914K0zi3d30_i3n30Xl4_10Zx3914K
0.i3d30Wj3n30Yl4_10ax3914K0Xj3d30Yj3n30cl4_10dx3953K0Zj3d30aj3m50ix3914K0bj3d30cj3n30kl4_10jx3914K0
dj3d30ej3n30ll4_10kx3914K0fj3d30gj3n30ml4_10lx3914K0hj3d30ij3n30ol4_10ox3914K0jj3d30kj3n30pl4_10px3
914K0nj3d30oj3n30Zm4_10yx3914K0pj3d30qj3n30dm4_10.x3914K0rj3d30sj3n30em4_10Wy3914K0tj3d30uj3n30fm4_
10Xy3914K0vj3d30wj3n30gm4_10Yy3914K0xj3d30yj3n30km4_10by3914K0zj3d30_j3n30lm4_10cy3917B0jW680Wk350j
W6X30Wk3X10jW6l20an4_10Wz3914K0Xk3d30Yk3n30qn4_10bz3914K0Zk3d30ak3n30ao4_10iz3933K0bk3d30ck3m50lz39
14K0dk3d30ek3n30co4_10mz3914K0fk3d30gk3n30go4_10pz3914K0hk3d30ik3n30oo4_10uz3914K0kk3d30lk3n30hp4_1
0a_3914K0mk3d30nk3n30lp4_10d_3914K0ok3d30pk3n30mp4_10e_3914K0qk3d30rk3n30qp4_10h_3914K0sk3d30tk3n30
zp4_10m_3917B0gX680uk350gX6X30vk3X10gX6l20Zr4_10f.3914K0wk3d30xk3n30cs4_10s.3Jr27C00Q0xTr30050ZX6f4
0iW430iW4E0iW4Jr27C00Q0xTr30050aX6f40uW430uW4E0uW41b22C0ar1uA0qu4Jv21t400Jb47700400_10vX110wX1.10sZ
1F0050Wx5J15A1Xx5E0Xx5H0Xx5n30Xx540Xx5141C0jq1Jz43P00K0dZ5i600121C0fu1Jp54700400m40050rv5Jk54700400
m40050sv5Ja31t400Jp54700400m40050tv5J11i10yUJb31t400J50181C0lf2Jq54700400m40050.o5Jq54700400m40050u
v5Jq54700400m40050pv5Jq54700400m40050vv5Jq55700400_10vX1n20050wv5Jq54700400m40050qv5Jq54700400m4005
0xv5Jq54700400m40050yv5JK5A1zv5E0zv5H0zv5n30zv540zv5Jq55700400V0yUm30050_v5Jq55700400W40yX1F0050.v5
Jq55700400V0yUm30050Ww5Jq54700400m40050Xw53y6670000ts53E0I0ts5k30ts5010Jq54700400m40050Wp5Jq5470040
0m40050Zw5Jp54700400m40050bw5J10Jq54700400m40050cw5Jq54700400m40050dw5Jq54700400m40050ew5Jq54700400
m40050iw5J13h20vX110wX1.10sZ13a7670000us53E0I0us5k30us5010Jr54700400m40050lw5Jr55700400_10vX1n20050
mw5330Js54700400m40050nw5Jr54700400m40050Xp5Jr54700400m40050sw5Jr54700400m40050tw5J95A1uw5E0uw5H0uw
5n30uw540uw53i7670000vs53E0I0vs5k30vs5010Js54700400m40050vw5Js54700400m40050ww5J13h20vX110wX1.10sZ1
Jq54700400m40050Yp5Jq54700400m40050xw5Jq54700400m40050yw5Jq54700400m40050zw5Jq54700400m40050Zp5Jq54
700400m40050_w5J75A1.w5E0.w5H0.w5n30.w540.w5JnF77004D0D00h100e100W10050io5Jx747004D0Z40050ts5JlF770
04D0D00h100e100W10050jo5Jx747004D0Z40050us5J10Jy747004D0Z40050vs51o11C0bk21y33z60vW5X10ja2p20xl31W4
3z60bX5X10_W4p20_l31x33z60eX5X10mp1p20.l31o41t400133z60oX5X10cX4p20Xm3153z60pX5X10qa2p20Zm3123z60sX
5X10mX4p20am3153z60yX5X10Yq1p20bm3123z60WY5X10.X4p20cm3143z60lY5X10Wb2p20dm3113z60wY5X10cb2p20gm31u
4480Zv5200D0j8Y3001wY26440B90Gp106Z1050.a5C209i52T10.30XX61j.2A10bt21A000uf43n2046020Yu20M0Z10rb4Z1
h20p1H0KeD9s1E0X10Wq310nY200t4r10bc4u20Wq3X20ns3n10Wq360ns3LfD6d10gVEE0j20_V00.V00WW1r43fu31c41C00L
21g93av3L14g90iw300jw300kw300lw3L14g90mw300nw300ow300pw39m5473001hX6D0hX6Y41hX6913B1iX6D0iX6Y41iX69
13B1jX6D0jX6Y41jX6L41g93qw3L14g90ty300uy300vy300wy3L14g90xy300yy300zy300_y3L14g90x_300y_300z_300__3
L14g90._300W.300X.300Y.3Jv24k100S0vX110wX1.10sZ19tD7A0T01gn5D0gn5J0og57E0u21gn5Q0sY4911k10pg51yv184
005009J06S01001J06Z102I01wv184005009J06S01001J06Z102I0Bw6580qs51G0I0qs5m300400Bl6580rs51G0I0rs5m300
400Bl6580ss51G0I0ss5m3004001N710er1l30nx1w10dd4q40fr100gr100ox100px1KN4c30nn310Zz1l40nn3p30nn31hA6C
00C0c8100H00k200_30lX213710nu2l30nz2w10nd4q40ou200pu200oz200ZX3KQ1e30oq112710.k1l30pm1w10vd4q40Wl10
0Xl100qm100rm1K21e30pb212710yw2l30kY3w10Xe4q40zw200_w200lY300tc3K21e30tb2K11e30kk2K91e30uf2K23e30a.
1n60sZ4u10sZ41b12n40jh5c10Wd41a1410oW3g50fe4q40pW300qW31bH770000Yv51T0A00W10vY1600X1001cG57301R0A00
d100y10XZ11_G57301R0A00d100y10XZ11yG57301R0A00d100y10YZ1162n400c10Xb41ZA810_r320ln3240ED0s300a20ux4
A00_100BfQ84G08F0PC000cV0D0f1L0a20zx4f30_x41k11n400134130Y10r8q20cs3c30ay414210ds320rn39m11K001fo19
40020rt5000B50300E001p10600Y1L01uE870gE30kX6F0kX6B0jW1EE0t10tn3n30iy4_10nb41s14p200f40ny4X10aX2p200
15310is320vn3_60oy41sE510ug35301R0550a3001ma244e1010kc53l106u103zE8A0_g1h1E0E0ww4v10yb4E0_g1Z40zg4l
10dQ20ps31C710lX6g10lX6150w10lX6s300L0oX2p20yy41d22B1l_5uA1016210ws320Wo31i718409YF770jn530jn5E0jn5
21jn580jn5EE0v20jn591670nv530nv5E0nv521nv580nv5s30nv51H1u50jh41L410eZ3p60ja330ja3L0ja31lb244402J0Fp
106u101zD5B0mX6W1d1060mX6o10jVX6001F3A0ik1o60rz4X10x6124B0nX6k20nX6w70zz400ac4BO5P0e8K0.z4s50qW5L0p
l1p20rW51I2z60e_4X10sY2113A0lk1o60h_4X10sO1P1d10rD132z60o_4X10uY29C670ay530ay5E0ay521ay580ay5s30ay5
123A0fk1o60__4X10nj29aC5P00v100l400S00o20091670031oX6D0oX6Y41oX6l200_10.t3B93k10pW5i60ql1p20a.2143A
0ok1o60a.4X10yR3rF8A0pX600lc4Y10sg57E0E0vY1e20pX6o50cu4X10mc41E2z60c.4X10Z71B2z60g.4X10zO1kA3K00500
Y4101B2z60m.4X10oZ21R470030Xe200p.4uA0kv41B2z60r.4X10tj29iC5P00v100l400S00o200912k70vi4_10pu39C4B1q
X6D0qX6Y41qX6k40wu3914B1rX6D0rX6Y41rX6k40zu31C2z60v.4X10qS9gC5P00v100l400S00o200912k70cj4_10dv3912k
70hj4_10hv3912k70oj4_10nv3941j90ov3912k70rj4_10sv3912k70sj4_10tv3912k70uj4_10uv3912k70vj4_10vv3912k
70Xk4_10.v3912k70ck4_10Zw39D4B1sX6D0sX6Y41sX6k40gw39lC5P00v100l400S00o200912k70lk4_10vw3912k70rk4_1
0yw3912k70uk4_10_w3912k70vk4_10.w3912k70_k4_10Xx3912k70.k4_10Yx3912k70Zl4_10bx3912k70al4_10cx3912k7
0dl4_10ex3912k70el4_10fx3912k70gl4_10gx3912k70hl4_10hx3912k70nl4_10mx39E1j90nx3912k70ql4_10qx3912k7
0rl4_10rx3912k70tl4_10sx3912k70ul4_10tx3912k70.l4_10vx3912k70am4_10zx3912k70hm4_10Zy3912k70im4_10ay
3912k70mm4_10dy3912k70nm4_10ey3912k70pm4_10fy3912k70qm4_10gy3912k70vm4_10iy3912k70ym4_10ky39ZD5P00v
100l400S00o200912k70en4_10Xz3912k70ln4_10Zz3912k70mn4_10az3912k70rn4_10cz3912k70sn4_10dz3912k70un4_
10ez3912k70vn4_10fz3912k70zn4_10gz3912k70_n4_10hz3912k70bo4_10jz39B1j90kz3912k70do4_10nz3912k70eo4_
10oz3912k70ho4_10qz3912k70io4_10rz3912k70ko4_10sz3912k70lo4_10tz3912k70po4_10vz3912k70qo4_10wz3912k
70so4_10xz3912k70to4_10yz3912k70zo4_10zz3912k70Zp4_10W_3912k70cp4_10Y_3912k70dp4_10Z_3912k70ip4_10b
_3912k70jp4_10c_3912k70np4_10f_3912k70op4_10g_3912k70rp4_10i_3912k70sp4_10j_3912k70up4_10k_3912k70v
p4_10l_3912k70_p4_10n_3912k70.p4_10o_3912k70Xq4_10p_3912k70Yq4_10q_3912k70eq4_10r_3915B0WX6E0WX6Z40
WX6l20mq4_10Z.3912k70sq4_10b.3912k70tq4_10c.3912k70.q4_10d.3912k70Wr4_10e.3912k70ar4_10g.3961j90h.3
912k70br4_10i.3912k70cr4_10j.3912k70gr4_10k.3912k70hr4_10l.3912k70nr4_10m.3912k70or4_10n.3912k70wr4
_10o.3912k70Xs4_10q.3912k70Ys4_10r.3912k70ds4_10t.3912k70es4_10u.3912k70gs4_10v.3912k70hs4_10w.3912
k70ls4_10x.3912k70ms4_10y.3912k70ss4_10z.3912k70ts4_10_.3915B0tX6E0tX6Z40tX6l20at4_10YW4912k70bt4_1
0ZW4912k70ot4_10aW4912k70pt4_10bW49xA6C00D0bX6000H00k200X10bX69vA6C00D0cX6000H00k200X10cX69qA6C00D0
dX6000H00k200X10dX69qA6C00D0eX6000H00k200X10eX69mA6C00D0fX6000H00k200X10fX69w56A0J01uX6D0uX6J00k31u
X6Q0ez4914B1vX6D0vX6Y41vX6Q0l_4914B1wX6D0wX6Y41wX6Q0n_4914B1xX6D0xX6Y41xX6Q0h.4914B1yX6D0yX6Y41yX6Q
0j.4914B1zX6D0zX6Y41zX6Q0w.4914B1_X6D0_X6Y41_X6Q0y.4914B1.X6D0.X6Y41.X6Q0..4914B1WY6D0WY6Y41WY6Q0XW
5914B1XY6D0XY6Y41XY6Q0ZW5914B1YY6D0YY6Y41YY6Q0bW5914B1ZY6D0ZY6Y41ZY6Q0dW5914B1aY6D0aY6Y41aY6Q0fW591
4B1bY6D0bY6Y41bY6Q0gW5915A2cY6D0cY6C0cY6r31cY6Q00914A2dY6D0dY6C0dY6r31dY6914A2eY6D0eY6C0eY6r31eY691
4A2fY6D0fY6C0fY6r31fY69i61k1009ax16440B503F06k106Z10K00914A2rn5D0rn5J0rn5k31rn5Bq42x70xo1p20rW51j42
z60wW5X10ap11of244e1010uk53l106u103j55A0hh1n40hh1Z40.u4l10qW420.Y41j53P0e8X70hp1p20XX51p42z60gX5X10
na2Bx52k10nX5i60az1162z60qX5X10_p11u42z60rX5X10lX4122z60vX5X10Wq1B.52x70W_1p20lf3132z60_X5X10vX41c6
480cv5200m300Q0jY1182z60.X5X10wa2132z60XY5X10YY4162z60bY5X10fq1122z60cY5X10jY4142z60pY5X10ab2Bl51x7
0ef2Bd51x70ff2132z60yY5X10hb2B32k10vY5i60yb2B31x70zb2BH2k10iZ5i60if2BE1x70jf2B42k10jZ5i60hk2B41x70i
k2B23P0c8K0kZ5i60__1B24P0c8v10uY1d50._1p20wW31W61u50.c41x61n4001c6310.Z420fr3_60mW511310aa420kr3_60
xW5B_51k10aZ51x6480bv5200m300Q0jY11_63p200Z20kY1t5001dN77301R0A00O0yY110zY1C00o10uZ11wJ67301R0A00O0
yY1E00X10mw5123B0uw5W11uw5k20uw5113B0ww5W11ww5k20ww5113B0Wx5W11Wx5k20Wx5113B0Xx5W11Xx5k20Xx5113B0.w
5W11.w5k20.w51z6210yZ420rr31p6210Wa420sr31Yv18400300B50300E001p10600Y1L01fK67301R0A00O0yY1E00X10wv5
153B0zv5W11zv5k20zv51fK67301R0A00d100X10.v5G0WZ116210ja420tr31Y7170qt517210la420ur3Kp75e30mW200WAr1
0nn3w400u1001xD7BF0C0mTA0ZX6g310k40.x430.x4E0.x41zL730yp2h10YZ36E0o10vr3H0nb5o30te1Z30yc11Y72k100j7
0ZT111y80qP16310js3200_60py41gD573000iUFN0d10ea1r80xg4K75c30yn310iX2s10yn3u20yn3p30yn3175A0aX6d10aX
6w70.y430.y4E0.y41yG3K005D0r310153100w30vs3c30bz416110xs31dM650vc560tQR0fADE0d41Xo3s40Xo31m75B0gY6F
0gY6W300n30nz4_10Xc4184A0hY600oVk200r80nh414210Xt3X70sz49hM7B0ei100dMD0ei1RE0u20dM00ei1r60fo31M4B0i
Y6W10000iY6k20Y_4KB4c30jY610kY600lY6r10jY61mh261J060df10G02X10C604X101A2y30ot3c30m_41n7270031._5171
10pt31B3C0oR.51ko3s40ko31k1710jc480d.1X10y7h400S0jc430jc4L0jc41ah25440BA0D0s71p106u1012410Zi4p60Zi4
30Zi4L0Zi41mM67D05D0q20vt3X100l200_100Jb35A0U100m40050uX6L0an21fL5B10DD0q20zt3W110k4009E6B0fi100eMD
0fi1Y40eM00fi1r60po3911qB0ro31Q470mY630mY6k20mY6r80011370021nY6k20nY63e75A0oY6Z100j30oY6o50du4X10nc
41F2y30cu3c30k.41D350pY660qY6R0rY6Jj35A0U100m40050vX6L0bn21B2y30gu3c30uo31A2y30ju3c30oi4Jl35A0U100m
40050wX6L0cn29A5B0gi100fMD0gi1Y40fM00gi1132y30uu3c30vu3925B0sY600tY6D0sY6Y40tY600sY6192y30Wv3c30z.4
Jp35A0U100m40050xX6L0dn2Jp35A0U100m40050yX6L0en2192y30Xv3c30.o3162y30bv3c30aj4112y30cw3c30dw33u73A1
uY6m40uY6q600172y30hw3c30YW5Ju35A0U100m40050zX6L0fn2Ju35A0U100m40050_X6L0gn2172y30rw3c30bp3162y30uw
3c30kk4112y30ny3c30oy3162y30ry3c30cW5Jy35A0U100m40050.X6L0hn2Jy35A0U100m40050WY6L0in2162y30sy3c30fp
3152y30u_3c30v_3J_35A0U100m40050XY6L0jn2J_35A0U100m40050YY6L0kn2142y30a.3c30jp3142y30WW4c30XW4JW45A
0U100m40050ZY6L0ln2JW45A0U100m40050aY6L0mn2JW45A0U100m40050bY6L0nn2JW43C00m40050cY6JW43C00m40050dY6
JW43C00m40050eY6JW43C00m40050fY6954A2vY6D0vY6Y41vY64M0913A2wY6D0wY6Y41wY6913A2xY6D0xY6Y41xY6913A2yY
6D0yY6Y41yY61XD580.o51G0I0.o5m3004001qC580Wp51G0I0Wp5m3004001dC580Xp51G0I0Xp5m3004001WC580Yp51G0I0Y
p5m3004001zB580Zp51G0I0Zp5m300400KaA5e30wo100WAr10Wq3w400u1001b42k100j70rY41c41k1001l23B0oUk20ay1r8
0zu4Kl21e30dp19i16B0ji100wy1D0ji1Y40wy100ji1r60bq31b21R0br21O2y30fZ4c30Yl3936B0ki100tz1D0ki1Y40tz10
0ki1r60fq3911qB0ro31B580iw5Z11iw5T0fY110gY1.10tZ11i3480mw5200.10fY1m100152y30jZ4c30bl3945B0li100f_1
D0li1Y40f_100li114280uw5Z11uw511280ww5Z11ww511280Wx5Z11Wx511280Xx5Z11Xx5162y30mZ4c30dl3112y30nZ4c30
fl3112y30oZ4c30hl314280.w5Z11.w5122y30pZ4c30jl31K3B0rUk20_l1r80pv49B6B0mi100mX3D0mi1Y40mX300mi1r60s
q3916B0ni100zX3D0ni1Y40zX300ni1r60tq3911qB0ro3915B0oi100cY3D0oi1Y40cY300oi1153B0uUk20dW3r80.v4926B0
pi100Zn1D0pi1Y40Zn100pi1r60xq3916B0qi100wn1D0qi1Y40wn100qi1r60yq3911qB0ro3915B0ri100fo1D0ri1Y40fo10
0ri1153B0xUk20Zd3r80dw4926B0si100ad3D0si1Y40ad300si1r60Wr3916B0ti100od3D0ti1Y40od300ti1r60Xr3911qB0
ro3915B0ui100wd3D0ui1Y40wd300ui1153B0_Uk20Ye3r80mw4926B0vi100up3D0vi1Y40up300vi1r60br3916B0wi100vp3
D0wi1Y40vp300wi1r60cr3911qB0ro3915B0xi100wp3D0xi1Y40wp300xi11x3230dq2h10yZ31b22y30Za4c30cX51f3210ba
4X70yW51c4480wv5200.10fY1m1001Q280zv5Z11zv51c4480.v5200m300G0iY1152y30da4c30uX515210ea4X70hX5122y30
fa4c30ZY5112y30ga4c30eY5112y30ha4c30gY5112y30ia4c30iY51aQ7B0xF00zY6D0zY6C0zY650zY68E0a90qr3115B0_Y6
00Zz5D0Zz5C0Zz550Zz51W4110Xa41s3110ca412110ma412110na41gQ610jc1N0xf4SE0u50jc100ye1G0ye11J2300h10sb5
1iQ6P0W_530tC90W_5EE0E0W_5e10W_51q4370wt5400W1001qn17400300B50300Er10600Y1L01q22y300c30ks3MeC6c3001
0ev200hVr10ns3u200p3001o4510nc5e50nc5l100R0nc5b100BXU410qb5290q210g2c301s413001pB510Xh4400Z50Xh4h20
Xh4J00161Z70ts31Y5370uFJ00W3001E2100X70dz4111Z70gz413670nD30uW200_g3Q0.m5500u90ru49f7670hD30.Y6E0.Y
62A0s30.Y6l20ih41hr17400300B50300Er10600Y1L0110181Z70Yt3161Z70tz4JW36A0L000E0_QZ40yQ40zQL0y69v24A00
01WZ6D0WZ6Y41WZ61b52A00d10XZ6MI4e30ov2s10gt3w40gt3u10gt31ZR570YZ620YZ6E0YZ6SE0e21YZ6HdC4p200i60uh4l
10YR2001K310g_4e50g_4h20g_4191Z70mt3191Z70i_4J92A0Tk50tO9vD4B10D0fRY40000eR131Z70k_4111Z70p_4111Z70
q_41zq17400300B50300Er10600Y1L01101101109N4B0ZZ6E0ZZ6Z40ZZ6l20di4161Z70._4JK4Q0uRZ40sR40tRL0W79Y82A
00k500913B1aZ6D0aZ6Y41aZ61.C4CF0B0jW1q200m50X_41M1o10bZ61r52A00d10cZ61z44A0000dZ6X10dZ6i1001_L57400
0gi4D00H0jUm310MP3e30fZ600gZ6r10eZ6133B0hZ6X100i10hZ61Q470iZ620iZ6E0iZ6p31iZ61e1670dG30Yq200_RQ60W6
0b.4Z40ii41Q310e.4e50e.4h20e.41E1Z70f.4JE2A0Tk50wO9P2Q0bSZ40aS131Z70i.4111Z70l.49bS6B0jZ6E0jZ620lA0
0mANE0v20jZ61oq17400300B50300Er10600Y1L01101101101a11Z70to39Q4B0kZ6E0kZ6Z40kZ6l20ni4914B0lZ6E0lZ6Z4
0lZ6l20qi49201h32y300c30tu39y82A00k500913B1mZ6D0mZ6Y41mZ6913B1nZ6D0nZ6Y41nZ6913B1tY6D0tY6Y41tY69.82
A00k500913B1oZ6D0oZ6Y41oZ61T1o10pZ61P470qZ620qZ6E0qZ6p31qZ61J1Z70x.41nq17400300B50300Er10600Y1L01z2
380aW1Z10000rZ6963B1sZ6D0sZ6Y41sZ61H1Z70_o39F4B0tZ6E0tZ6Z40tZ6l20Wj4914B0uZ6E0uZ6Z40uZ6l20Xj41G1Z70
Zj4931k70ej4911k70jj4950911k70tj4911k70wj4971k70xj4980931k70Zk4911k70ek49p92A00k5001B1Z70bw39q92A00
k500913B1vZ6D0vZ6Y41vZ6913B1wZ6D0wZ6Y41wZ6913B1xZ6D0xZ6Y41xZ6913B1yZ6D0yZ6Y41yZ69j12Q0wSZ40vS3p63A1
zZ6m40zZ6q6001Q1Z70WW51N1Z70ap39C4B0_Z6E0_Z6Z40_Z6l20fk4914B0.Z6E0.Z6Z40.Z6l20hk4973B1Wa6D0Wa6Y41Wa
61D1Z70jk4931k70nk4951k70ok4911k70pk4931k70tk4911k70wk4931k70xk4911k70yk4931k70Wl4911k70bl4911k70fl
4911k70il4951k70jl49G09G0911k70sl4911k70vl4941k70wl4911k70xl4911k70yl4911k70zl4951k70Xm4911k70cm491
1k70jm4911k70om4911k70rm4961k70sm4911k70tm4931k70xm4911k70_m4931k70.m4911k70Wn49.A2A00k5001X11Z70my
39WB2A00k500913B1Xa6D0Xa6Y41Xa6913B1Ya6D0Ya6Y41Ya6913B1Za6D0Za6Y41Za61h11Z70aW5923B1aa6D0aa6Y41aa69
10910910913B1ba6D0ba6Y41ba6910910910913B1ca6D0ca6Y41ca61q11Z70ep39I4B0da6E0da6Z40da6l20Xn4914B0ea6E
0ea6Z40ea6l20Zn41I1Z70bn4931k70cn4911k70dn4941k70gn4921k70hn4911k70in4911k70jn4911k70kn4951k70nn492
1k70on4911k70pn4931k70tn4911k70wn4931k70xn4911k70yn4931k70.n4921k70Wo4911k70Xo4911k70Yo4911k70Zo49L
0911k70fo4911k70jo4911k70mo4951k70no49R0931k70ro4911k70uo4931k70vo4911k70wo4911k70xo4911k70yo4951k7
0.o4921k70Wp4911k70Xp4931k70bp4911k70ep4931k70fp4911k70gp4931k70kp4911k70pp4911k70tp4911k70wp4951k7
0xp4911k70yp4931k70Wq4911k70Zq4931k70aq4911k70bq4911k70cq4911k70dq4951k70gq4921k70hq4911k70iq4911k7
0jq4911k70kq49eD2A00k5001v11Z70t_39fD2A00k500913B1fa6D0fa6Y41fa6913B1ga6D0ga6Y41ga61g21Z70eW51X21Z7
0ip3933B1ha6D0ha6Y41ha6910910910913B1ia6D0ia6Y41ia69109109109G4B0ja6E0ja6Z40ja6l20lq4914B0ka6E0ka6Z
40ka6l20nq4921k70oq4911k70pq4911k70qq4911k70rq4951k70uq4921k70vq4911k70wq4911k70xq4911k70yq4911k70z
q4911k70_q4971k70Xr4921k70Yr49F09F0911k70dr4931k70er4911k70fr4931k70ir4921k70jr4911k70kr4911k70lr49
11k70mr4951k70pr4921k70qr4911k70rr4911k70sr4911k70tr4911k70ur4911k70vr4971k70yr4921k70zr4911k70_r49
11k70.r4911k70Ws4951k70Zs4921k70as4911k70bs4931k70fs4911k70is4931k70js4911k70ks4931k70ns4921k70os49
11k70ps4911k70qs4911k70rs4951k70us4921k70vs4911k70ws4911k70xs4911k70ys4911k70zs4911k70_s49jF2A00k50
01d21Z70..39kF2A00k500913B1la6D0la6Y41la6913B1ma6D0ma6Y41ma6910910910913B1na6D0na6Y41na69109109109D
4B0oa6E0oa6Z40oa6l20.s41k21Z70kp3921k70Wt4911k70Xt4911k70Yt4911k70Zt4914B0pa6E0pa6Z40pa6l20ct4921k7
0dt4980911k70et4911k70ft4911k70gt4911k70ht4911k70it4911k70jt4911k70kt4911k70lt4911k70mt4911k70nt49D
1k70qt4921k70rt4911k70st4911k70tt4911k70ut4911k70vt4911k70wt4911k70xt4911k70yt49pG2A00k5001e11Z70cW
49qG2A00k500944B0qa6E0qa6Z40qa6l20zt4911k70_t4911k70.t4911k70Wu49uG2A00k500913B1ln5D0ln5Y41ln5913B1
np5D0np5Y41np5920913B1sp5D0sp5Y41sp5913B1tp5D0tp5Y41tp5JvC3C00m40050vY6923B1vp5D0vp5Y41vp5913B1xp5D
0xp5Y41xp51_L3BF000jn5Y4001_L3BF000nv5Y400933B1.p5D0.p5Y41.p5913B1Wq5D0Wq5Y41Wq5913B1fq5D0fq5Y41fq5
913B1gq5D0gq5Y41gq5913B1hq5D0hq5Y41hq5JYD3C00m40050wY6JYD3C00m40050xY6JYD3C00m40050yY69C0913B1iq5D0
iq5Y41iq5910913B1jq5D0jq5Y41jq5920913B1pn5D0pn5Y41pn51XM3BF000ay5Y400923B1oq5D0oq5Y41oq5913B1pq5D0p
q5Y41pq5913B1qq5D0qq5Y41qq5913B1xq5D0xq5Y41xq5910910913B1yq5D0yq5Y41yq5913B1zq5D0zq5Y41zq5913B1_q5D
0_q5Y41_q5913B1.q5D0.q5Y41.q5913B1Wr5D0Wr5Y41Wr5913B1Xr5D0Xr5Y41Xr5910910913B1tn5D0tn5Y41tn5913B1vn
5D0vn5Y41vn5913B1zn5D0zn5Y41zn5913B1Yr5D0Yr5Y41Yr5910913B1br5D0br5Y41br5913B1ir5D0ir5Y41ir591091091
3B1jr5D0jr5Y41jr5913B1kr5D0kr5Y41kr5913B1lr5D0lr5Y41lr5913B1mr5D0mr5Y41mr5913B1nr5D0nr5Y41nr5913B1o
r5D0or5Y41or5913B1pr5D0pr5Y41pr5910913B1rr5D0rr5Y41rr5913B1.n5D0.n5Y41.n5913B1bo5D0bo5Y41bo5913B1do
5D0do5Y41do5913B1sr5D0sr5Y41sr5910913B1wr5D0wr5Y41wr5913B1xr5D0xr5Y41xr5913B1yr5D0yr5Y41yr5913B1zr5
D0zr5Y41zr5910913B1_r5D0_r5Y41_r5910913B1Xs5D0Xs5Y41Xs5913B1Ys5D0Ys5Y41Ys5913B1ho5D0ho5Y41ho5913B1c
s5D0cs5Y41cs5913B1ds5D0ds5Y41ds5910913B1es5D0es5Y41es5913B1fs5D0fs5Y41fs5913B1hs5D0hs5Y41hs5913B1mn
5D0mn5Y41mn5913B1nn5D0nn5Y41nn53ZW16QI0U20.100E0fw5100400311k10rn51WD510Zn2N0yw4Z70Zn200Zr2G0Zr2MfC
4e30xx1s10_Y4w40_Y4u10_Y41pC2C0.W4vA0Zg4JbC2A0Nk50oa21tB1o10ra6MjC1e30dz1HcJ4p200i60bv4l10eX4200JmB
4Q0bX4Z40ZX440aX4L0dZ49ZA2Q0oX4Z40nX4JoB2A0Nk50ta2161o10sa61WB1o10ta61uB3B0fq200xX4bB0ev4J64Q0sX4Z4
0qX440rX4L0hZ49Y_15440B503a206Z10K00972Q0aY4Z40ZY41f31Z70al3161o10ua69Z_15440B503a206Z10K009Z_15440
B503a206Z10K00141Z70cl3962Q0nY4Z40mY49Z_15440B503a206Z10K00131Z70el3111Z70gl3111Z70il3111Z70kl3MM4e
30eX3s10sZ4w40sZ4u10sZ4JL2A0Nk50bb2MO1e30sX3JH2A0Nk50eb2M24e30wm1s10vZ4w40vZ4u10vZ4M31e30in1M14e30y
c3s10xZ4w40xZ4u10xZ4M21e30gd31u41Z70yY41sE1300121Z70WZ41g71Z70fX5121Z70YZ4121Z70iX5121Z70cZ4121Z70t
X5111Z70wX5111Z70xX5111Z70zX5111Z70YY5111Z70aY5111Z70dY5111Z70fY5111Z70hY5111Z70jY51B1Z70rZ41H2l10_
Z3v20tj5121Z70tZ4141Z70qY5111Z70xY5141l10oh51m11o10va6131Z70wZ5121o10wa61i11o10xa6131Z70xZ5121o10ya
6BuE110uj5N151o20E0xk110bb410bb4Z80bb4O241o20F0xk111cb4a80cb49jf15F0_f4A0uPRE0v20uPG0Wy4B411001C2l1
0ZZ3v2009mf15G0dy490vPRE0v20vPK0ey4913Q0wPZ40wPK0fy49jD5B0pg3E0yP210.30yPa60lb4913Q0zPZ40zPa60mb41a
4570iD30X8FC050aa3w90rg41D3Z700S0dc5o20sy4NB4Y30zk110wb410wb4Z80wb4OB3Z30zk111xb4a80xb49qF5B0wC000Q
60m30zY6g60zb49C3Q0jQZ40jQG0Xz41sJ2750b10bA111o10cA9B3Q0kQZ40kQK0hz4913Q0lQZ40lQK0iz4913Q0nQZ40mQK0
kz41H440ya550rW3Ew10y21uc59D3Q0pQZ40pQa60Wc4912Q0qQZ40qQ1o4570gE30za6F0za61A0c60oz4J25B0co2E0co2Z40
co240co2.5001M5A0_a600jADw10w10_a6W70Yc41M230jq2h1001pH3RJ0i60bu2p20jv21kE3B00F0mv2H001Q570iV30.a6D
w1060.a6w70Z_41K2W80_c5o20a_41S510sg3H0Zc55w1060it3v70b_4NL3Y30Wb610Xb610Xb6OL2Z30Yb611Zb61V510ah3N
w10c40si5Z20io3V0ic49M3B0ab6E0Zz5Z40Zz51Z32B1bb6vA009I3Q0hRZ40gRK0s_49G3B0db6E0cb6Z40cb61G3B0eb6F0e
b6o60y_41F3A0fb6Z40fb6W70kc41B3P0j6c70kh3o20W.41D3B0gb6k20gb6w70X.4K747W10_10ib611hb6r10hb61zE1i100
1iK2BY10k20yV1h15A0jb600kb6Dw1060jb6r80ec41J2R00H0zv21H1w20bu3K63c30lb611lb6r10lb6HWK2p200x7001C470
qE3G011kAl60q.41C3A0mb600nb6Y40mb61J310yo3y80.u3V0yi4H43A0ob6n40ob6q60rc4H12A0pb6n40pb6191j10xe3111
j10ye31U2R00B0dW1H43A0qb600rb6m40qb61n32B1sb6bB00141j10Xf3111j10Yf3111j10tb6111j10Zf3111j10af3NY14Y
30c710Yd410Yd4Z80Yd4OY13Z30c711Zd4a80Zd49s13Q0kW4Z40kW4G0sW59l13Q0nW4Z40nW4a60bd4913Q0oW4Z40oW4a60c
d41_12j10zk3w90wu4Nz11Y30e7Oz11Z30e7963Q0zW4Z40zW4G0ZX59r12Q0WX4Z40WX4912Q0XX4Z40XX41.n244G05u101D0
6u101o11R0bz11V1w20au41F1j10b_1121w20bu41O1d10tW1NB4Y30mu210ld410ld4Z80ld4OB3Z30mu211md4a80md4ND1Y3
0qu2OD1Z30qu21Wl13750Dp10.1H01A1R0qX3191j10XY3181d10cX1N64Y30il110td410td4Z80td4O63Z30il111ud4a80ud
4N81Y30ll1O81Z30ll11wu244G05u101D06u10181R0gn1181j10co1181d10pX1N64Y30ZM10.d410.d4Z80.d4O63Z30ZM11W
e4a80We4N81Y30aMO81Z30aM1bj14A10Ep10.1H0400181R0ed3181j10td3181d10WY1N64Y30ef310de410de4Z80de4O63Z3
0ef311ee4a80ee4N81Y30ff3O81Z30ff31q22P0j8v10vY1N34Y30Xe310ie410ie4Z80ie4O33Z30Xe311je4a80je4N51Y30Z
e3O51Z30Ze3Bn31k10Ze51n31l10uZ31u22W80pe5o20sZ5112W80xe5o20vZ51E1d10oY1122W80ff5o20zZ5112W80kf5o20_
Z5112W80bg5o20Wa5112W80gg5o20Xa5112W80rg5o20Za5112W80wg5o20aa51nN370ft5JC0q200122W80ph5o20ea5112W80
th5o20fa51r21y30bZ11B1d10eZ1121y30fZ1111y30gZ1111y30hZ1162W80wj5o20ia5112W80_j5o20ka5131y30nZ1111y3
0pZ11N4P0t720ox4Hb10h30a19tj1410px4O0lPRE0v20lP91310qx4O0mPZ40mP1i4380Ws3H00Z4001R410gf480WZ3Ew10q2
0eb418470fVH00c700o20tb51m6470040Xa3Q00_90ag4114B0Xe200vW2uA0bg4000111bB0cg4131cB0dg41m8470ig430ub6
30ub6BC01XQ3BF0N0cY6g3101Yk14B0g6F0lg4QE0f90mg41l41700114B0t8X10WX2v90qg4000111dB0sg4131eB0tg41h22w
200v70wf4174A0vb6SB0x20WVe40ac51g12k10cW64001A478090f8K0uy4i60wu2124B0vb4Dw1060os3w80yg41C410zn3580
j70zn300ic51YQ3P00v100d5q2011310Yf1g10eAX20Zf11WM4100u600R0Wh4b1009G474030wb6A0wb6Z40wb61I4B0ea300Y
h4qA0Zh440011380qs321xb6qA001L1C0rX21L1C0ga3111C0ha3131C0tX2112B0yb600zb6132B0_b600.b617380021dW620
dW61Q170qc519280Wc621ub611480020dZ300sc5rA0eh412410fh4640.30tc5j20gh49vI1T1014370uF040G1hA1.Q3BF0N0
dY6g3101V3B0h6F0kh4oA0lh4124A0JE0ao3DB0c40qO1A4B0n_5030B0n_5H0n_51o33B0Xc6X10Xc6w9001W11j10WY21W11j
10ma3122B0Yc6X10n_5122B0Zc6X10Xc69c51Z500174B0.QF00H0nv2eA0sh41u21R001p43A0000kUk20ga11Y13B0gc4k20i
t3w80th4HgK3j400o400l10XR184B0X9F0ut1H00v90wh4111dB0_w4984B0040ac690ac6Z40ac61N280kt321bc69Z13F0cc6
A0cc6Z40cc61Z13B0pa300xh4qA0yh41H2B1dc6W1001T280zh460011410t_440eg4140z70t_411210u_4e80u_41T3B0gZ30
0Yd5rA0.h4944840D0kRJ0og5l30kR911k10pg59J3B0ec6E0ec6Z40ec6913B0fc6E0fc6Z40fc69j52B0cb6tA001zR3BF0N0
eY6g3101V2B0gc6F0hc6933B0ic6E0ic6Z40ic61M3A0jc600oVk2001r1310et2g10tv2X20ft211310it2g10uv2X20jt2113
10mt2g10vv2X20nt211310qt2g10wv2X20rt21T3B0wRX10xv2eA0fi41R2B0kc6k20lc6HR1mA0zR1H4B0Zq200.RrA00F0ji4
1R1R0xt19P3F0mc6A0mc6Z40mc61P2B0nc600oc61M210n.4e80n.411210o.4e80o.41N2B0pc600qc61oK3100e500h20hd59
63FB021kA.30x_41mS3BF0N0fY6g3101_K4740F0s.4H00.70ld59K3B0rc6E0rc6Z40rc6913B0sc6E0sc6Z40sc6913B0tc6E
0tc6Z40tc6913B0uc6E0uc6Z40uc6163A1vc6RB0x20vc61J2B0wc6X10xc6M83Ae10r11yc6r10yc61W51w2001J3B0aq200kS
bB0zi4112B0bq200mS9J3F0zc6A0zc6Z40zc6983B0_c6E0_c6Z40_c6913B0.c6E0.c6Z40.c6913B0Wd6E0Wd6Z40Wd6913B0
Xd6E0Xd6Z40Xd6913B0Yd6E0Yd6Z40Yd6913B0Zd6E0Zd6Z40Zd6960910910910990920910HzJ2p200x7001G2B0ad600bd69
_13G0cd690cd6Z40cd6943B0dd6E0dd6Z40dd6913B0ed6E0ed6Z40ed6913B0fd6E0fd6Z40fd6913B0gd6E0gd6Z40gd6913B
0hd6E0hd6Z40hd6913B0id6E0id6Z40id69309709109809409109409109509409109109109609209109309109A092091093
09Q0980910910910910980910990940910940910950913B0jd6E0jd6Z40jd6913B0kd6E0kd6Z40kd6913B0ld6E0ld6Z40ld
6913B0md6E0md6Z40md6913B0nd6E0nd6Z40nd6913B0od6E0od6Z40od695091096099091098095091096092091093098091
09909509109609409109409109509409309109409209109309H09809109109609209109309109A09209109309D091091091
09B09709109809409109409109509409109109109609109709409109409109509209109309P091099095091096092091093
0980910913B0pd6E0pd6Z40pd6913B0qd6E0qd6Z40qd6913B0rd6E0rd6Z40rd6913B0sd6E0sd6Z40sd6913B0td6E0td6Z40
td69509109609109709409109109109609109709409109G09509109609209109309809109409109509409109109109G0970
9209209109A09409309109409209109309E09809409109509209109309809109109109609109709409109G0950910960920
9109309809109909509109609409109409109509409309109409209109309H0910990950910960920910930980910910910
960910970940910910910913B0ud6E0ud6Z40ud6913B0vd6E0vd6Z40vd6913B0wd6E0wd6Z40wd6930910910910960910970
940910910910910910980910990940913B0xd6E0xd6Z40xd694091091096096091094091095094091091091096091097094
09109109109109109809109909409109109109609109709409109Z109509109609209109309809109409109509409109109
10960910970940910910910910910913B0yd6E0yd6Z40yd6910910910910913B0zd6E0zd6Z40zd6910913B0_d6E0_d6Z40_
d69409109109109109109109109109109109D09109E0940910910910910910910910913B0.d6E0.d6Z40.d69109109101dC
4B0_DF0zY6hA0010Zu4HmX14700H00q300D0YZ6122B0We6F0Zz5H23A0iZ6Y40iZ6E0iZ6H13A0qZ6Y40qZ6E0qZ6HgB2A1yv5
m40yv5H12A1Xw5m40Xw51aE2C0yk3vA0su41aE2C0.o1uA0tu4111bB0cg4131cB0dg41zC3B0k6F0mp3oA0uu41iH17001wD2j
10Xp1v90vu4111dB0sg4131eB0tg41uE3P0c8K0zW5i60Xy11xC3B0fd4k20Yu4w80_u41_C310jb1g10WBX20kb11A1C0kp11A
1C0_k3111C0.k3131C0lp11fD2B0l6F0np31A1j10np11A1j10Wl31oC3B0dTX10cz1eA0av41YE3h20kW110lW1.10oZ11YE2B
0qUk20rz11dD2B0hd4k20au4HWM3j400o400l10dX41cD2R0cl1hA0dv4111dB0_w49vD2Q0pX4Z40pX4911k10pg51xC2B0eTX
10X_1H61mA0wX41fC3B0gq200yX4bB0fv4161R0dl11hC2B0hq200fY4112B0iq200hY41J2C0hW5uA0lv41K1C0hW51K3B0m6F
0ml3oA0mv41S3P0h8K0mY5i60YW3131C0iW5111C0jW51O2B0n6F0nl31D3B0fTX10rX3eA0wv41aM2Q00Z4001M2B0tUk20am1
1D2R0mUhA0xv41E1R0mU1Z1310aw2g10Xx2X20bw211310ew2g10Yx2X20fw211310iw2g10Zx2X20jw211310mw2g10ax2X20n
w21M2B0gTX10_X3161R0nU1F3P0e8K0zY5i60Wn1133B0hTX10hn1eA0Yw41C3h20iX110jX1.10rZ11C2B0wUk20fW3152R0ek
2hA0Zw4161R0ek2182B0iTX10Zo1121R0fk2183P0i8K0bZ5i60rZ3133B0jTX10fd3eA0kw41Xn13AG0Z400400182B0zUk20m
d3152R0.z2hA0lw4161R0.z21H310X_2g10dx2X20Y_211310b_2g10ex2X20c_211310f_2g10fx2X20g_211310j_2g10gx2X
20k_21C2B0kTX10pd3161R0W_2192B0.Uk20be3122R0yY3hA0pw4131R0yY3111R0zY3112R0hf3hA0sw4121R0hf3111R0if3
1oH3P0_720pZ5Y50q11mH1l50sW51mH210Xx4c50ad41lE1qA0ou41YH1P0g81XH310Yq3x70Yq300te51uF484080u190fp5w4
0sQ182B0Xe6F0n_51tY118b10151P0j81tH270xY1hA0vj51qG170gH1.H1y3001hI270cu54001WG3840C0_9s50Y1111m60Z1
111m60nx4111m60b11uG2P00.40cN9d23Q0nPJ00l30nP912Q0rPZ40rP143P0f6s500l10on31B310as320rb52N01cI180011
1l50jb413313060kb430Ye6113A0sn3040x50_P123B4090p9b50c1982Q0YQZ40YQ912Q0ZQZ40ZQ912Q0aQZ40aQ912Q0bQZ4
0bQ173A0ak1040l70ZX21F2A0Nk50bX21D1W80gc51H1v50cQ1B3A0.p2040o80eQ1C310Wf1940_20Xf11WI1i1001j32k100i
60lX21F3A0vY6040Y10vY69A2Q0hQZ40gQ1K210rs320oc511213061.b6111B1zb61A1v50ez41M1l50.b4131B1Ze6113A0vX
2010d60lz4982Q0oQZ40oQ9zM2G00Y500143B10Q0gVb80hh41G1Y90rQ163B0ae6000E0ae61b12P0vAs50pO1A1v50vQ1yH17
001P2A0ik1q70w61Q1.70bY21Q1v50dY2111v50gY21R1W80dt31mb12740X100121W80zc51B3B0be6F00_10be61R210fu2i3
0gu211210iu2i30ju211210ku2i30lu21T2P0f8X70_d11U1x70qY21U2A0wY6d10wY6112A0xY6d10xY6112A0yY6d10yY61F1
.70rY29O2Q0cRZ40bR912Q0dRZ40dR1tI1i400142A0lk1q70rO1N1v50l_41YI1700121v50n_4121B1o.5191.70tY21N1v50
vY2992Q0iRZ40iR912Q0jRZ40jR151B1ce6922Q0mRZ40lR912Q0de6Z40de61XI2B0hc6YB00112B0ee6F0ee6112B0fe6F0fe
61A2A0fk1q70mj21A2A0Rk50fo21b11.70.61C1v50eZ2112A0Lk50X71Y12P0j6c70jh31dI1i10011210gt2i30ht211210kt
2i30lt211210ot2i30pt21c12B0ge6k20ge61e11W80au313210eb1i30fb11h11j90Y.41o12B0he6X10he6112B0ie6X10ie6
162B0je6k20je6161W80fd51kI2B0lc6fB001H2A0ok1q70xR1I1.70Y71V1.70jZ21S1B1oc6111B1ke61d11.70vO1L2A0Tk5
0xO121.70yO1d11v50h.4151B1p.5121v50j.4121B1q.51A1.70kZ21T1v50lZ2111v50mZ2131.70nZ29d12Q0dSZ40cS161B
1le6111B1me6111B1qc6942Q0hn5Z40hn5122B10G1nA1g12B0ne6F0ne61g11.70sj2111.70uj21e11v50a71e11W80xh31S2
B0oe6k20oe61W12B0pe6X10pe61wI2B0xc6gB001U1.70iS1C1B1qe61V1.70b7131.70pS131B1re61T1v50_O1T1.70.O131B
1r.51S1v50w.4121B1s.5121v50y.41R1v50.Z21R1.70Wa2141B1se6111B1te69P2Q0Zy5Z40Zy51P2T0lA00mA1N1.70zj21
81v50WP133T0uV00080cW1161B1bd61I1.70_S121B1t.5151v50..4121B1u.5121v50XW5111v50XP131B1v.5121v50ZW512
1B1w.5121v50bW5121B1x.5121v50dW5121B1y.5121v50fW5121B1z.5121v50gW5121B1_.5111B1..59O2Q0cx5Z40cx5912
Q0px5Z40px5912Q0qx5Z40qx51k12P0i6c70cc31Q1.70Zp1182A0Pk50bp11e11v50pW41d42A0eq2t80rW41q2210hb1i30ib
11X81i1001v32P0e8X70fp1992Q0xW4Z40wW4162A0Uk50an2161Y90YX41f11.70ma21B1.70pp11B1v50rp1111v50up11921
0fz1i30gz111210kz1i30lz111210mz1i30nz11B2P0g8X70cr21C1x70yp1181.70zp19D2Q0iX4Z40hX4912Q0jX4Z40jX41x
11.70kX41F1v50bn2111v50cn2161.70.p11D1v50Xq11H1.70sa2121v50Zq11z11v50ua21E210uz1i30vz111210wz1i30xz
111210yz1i30zz111210_z1i30.z111210ae1i30be11D1.70uX4191.70va21C1.70aq1131.70WY4111.70XY41G1v50dn211
1v50en2151.70bq11F1v50cq1111v50dq1131.70eq11H1v50ya2181.70dY41C1.70za2121.70iY4111.70kY41A1v50fn211
1v50gn2191v50gq1191.70hq1151.70qY4141v50hn2111v50in2111v50jn2111v50kn2111v50ln2111v50mn2111v50nn21k
31W80nZ31G1.70Zb21V210tz2i30uz211210wz2i30xz211210yz2i30zz2141.70db21N1v50fb21.81i10011210cw2i30dw2
11210gw2i30hw211210kw2i30lw211210kf1i30lf1171.70gb2171v50ib2121.70jb214210kn1i30ln111210pn1i30qn111
210rn1i30sn111210xn1i30yn111210zn1i30_n111210.n1i30Wo111210Xo1i30Yo111210ig1i30jg111210rY3i30sY3112
10uY3i30vY311210wY3i30xY31_81i10011210Z_2i30a_211210d_2i30e_211210h_2i30i_211210lg1i30mg111210eh1i3
0fh111210de1i30ee11d81m60o1111m60p1111m60r11w818001X81.50s11m51W80se5111W80aZ4111W80we51q6210Yv4u60
Zv4121W80gZ4111W80_e51f31v50iZ4111v50lZ4131W80if5111W80jf5111W80mf5111W80eg5111W80fg5111W80ig5111W8
0ug5111W80vg5111W80yg51a8210_Z420sk5121W80qh512210Ya420vk5121W80sh5111W80wh5111W80xj5111W80sa4111W8
0zj5111W80ua4111W80Yk5P82130c30eb5192130O0tC112T00H0mb512210ig3R0011110xx411200ue6000152T00K0ZA1220
0060sC11270010ob515110qb511110Wa31A2T00J0Xy415170gD11270000xb5112800d30yW21k91B0016110hy4112100P0.e
1112R0030jy4112A0vb6K001E1o10bA111o10cA111o10dA142A00a30yW21C170kDQ12700Y30dX2112g30020dv2192V00K0u
b41C110zy2112100b40vu21C2V00E0fc5191o10nT14110gf411110ba31W11l10mc512110Yz4112100A0Yh41D170Zz413110
ss311110fa313170nV12110u611110v613170oD12110pc5191C0sc51V1F0ve61Y1180dh4112800U0v8112Q0l9C001X11R0a
f1112R00z20yc518110ug31Y11A0we61R1q10Zc4152R00H0nv21P1o10pV15110eu211110hu2131o10oT1F1C0hc41B1R0df1
14110Wd111110.c5191j10ef112110oa31K1F0xe612110lt3121F0ye61eS2100u6001N180_h4131F0ze6112F0090Wi4121F
0_e61Q1d10B1Q1Q0r91C1j10ue3122Q00H0at21J1o10wV111o10xV161d10zV151j10ff1172Q00y30sV1A1F0.e6141d10D1O
1R0pT111R0qT111R0g11D1Q0t9181j10we31B1o10ZW1181F0Wf6151R0_i4111R0rT111R0j1111R0k1111R0_.41D1d10bW11
91j10Wf3111j10st2111j10tt2111j10ut2111j10vt2111j10wt2111j10xt2111j10yt2111j10zt2111j10_t2111j10.t21
D1R0tT111R0vT111R0wT111R0m11m31T0yD1O1o10qA1WD1T101c31m30Wp1151R0yT141o10rA111o10sA111o10tA1Y31l30W
p117170iEQY31g30Zu11Y31j30wx11w1110.x11X31d40au1171o10zT13110ZP11110aP1D1R0_T1N1j10cz1151o10mW11411
0ez111110hz1131o10.T161R0br213110xo2171j10lb1141o10qW1111o10rW1131j10mb11y11t40pW1131o10sW1181R0Wc1
QM1g30df21M1j30dX31A110iX31M1d40XW3161o10WU13110mq111110nq1181R0Xc11C1j10rX3151o10.W114110sz211110v
z2131o10XU111o10ZX1111o10aX11I1t40qY1121o10bX1191j10ow2111j10pw2111j10qw2111j10rw2111j10sw2111j10tw
2111j10uw2111j10vw2111j10ww2111j10xw21K1R0bPQS1g30mb21S1j30vm11J110_m11S1d40kl11G1o10YU13110sq11111
0tq1181R0cP1A1j10hn1151o10kX114110jn111110mn1131o10ZU111o10mX1111o10nX11S1t40YX1121o10oX1QH1g30tm21
H1j30xc318110Wd31H1d40qZ3151o10aU13110ql311110rl31G1j10fd3141o10xX113110tY411110uY4131o10bU111o10zX
1111o10_X11G1t40tY1121o10.X1191j10l_2111j10m_2111j10n_2111j10o_2111j10p_2111j10q_2111j10r_2111j10s_
2111j10t_2111j10u_21G110qY311110tY3Pw61h30ge512110vl311110oW511110fe311110uW51X61k10re51J1o10cU1311
0ie311110aX511110ke3141o10hY1111o10dU13110me3121o10lY1111o10mY11T1t40kY11s11R0w1131o10nY1121R0z1111
R0_1111R0W21_31T0vF151o10ZB1t3170xD121o10aB111o10bB111o10cB14170fGPS1h30Wf51O1k10hf5191T0hH151o10lB
111o10mB111o10nB111o10oB18170vHP81h30yf5181k10dg5181T0bI151o10rB111o10sB111o10tB111o10uB18170pIP81h
30jg5181k10tg5181T0_I151o10xB111o10yB111o10zB111o10_B18170iJ171k10eh5171T0tJ141o10XC111o10YC111o10Z
C111o10aC17170bK161T0lK131o10dC111o10eC111o10fC111o10gC16170zK161T0WF1w71l10mh5141o10yA14170.E1t819
0nh5131o10zA111o10_A111o10.A15170mF1k71q10ne41.1110ir3141o10fU12110Xx41C1l10rh516170tZ511170_Y1151o
10.Y1111o10gU1r61Q0v9121o10ZZ1111o10aZ11l61d10cZ11e21t40YZ1151Q0x9141o10dZ11A170uF1Q1T0qG131o10fB13
170pG121o10gB111o10hB111o10iB14170ZH1O1q10qe412170aI121q10se412170zI121q10ue412170sJ11170kK1S110uj5
1v91n10da5151q10xe413110cn311110qa41M1Q0o912110.j511110ta4161q10Yf4"

/-- Reads every state's mode and row. -/
private def states : Feed (Array Mode × Array (Array Nat)) := do
  let mut stateModes := #[]
  let mut rows := #[]
  for _ in [0:5594] do
    stateModes := stateModes.push (modes.getD (← next) default)
    let back ← next
    let base : Array Nat :=
      if back = 0 then Array.replicate 375 0 else rows.getD (rows.size - back) #[]
    rows := rows.push (← patched base)
  return (stateModes, rows)

/-- The mode and the row of each parser state. -/
def parserStates : Array Mode × Array (Array Nat) := run stateText states

end LayerAudit.Syntax.TypeScript
