import LayerAudit.Syntax.Grammar
import LayerAudit.Text.Packed

/-!
# Actions of the TypeScript grammar

The lists of actions that cells of the parser's table refer to, apart from the plain shifts.
-/

namespace LayerAudit.Syntax.TypeScript

open Packed

/-- The action lists, each counted. An action is its kind and the numbers that it needs. -/
private def actionText : String :=
  "131214b501014o611124Y81011dH014Y810124o61111xH014i711124o61111eh5024o61111pF024Y81011uD024o61114Y81
0114.A21024.A2101sL124.A2101td1124.A2101ta1124.A21014124.A2101gC124.A2101.t2124.A2101ax4124.A2101_f
3124.A2101ua1124.A2101pe3124.A2101bx4124.A2101cx4124.A2101af4124.A2101Y6124.A2101kO124.A2101hC124.A
2101dx4124.A2101V124.A2101ex4124.A2101bf4124.A2101cf4124.A2101fx4124.A2101f9124.A2101x9124.A2101a51
24.A2101n6124.A2101_Y3124.A2101sM124.A2101.f3124.A2101W3124.A2101iC124.A2101ka5124.A2101gU124.A2101
jC124.A2101va4124.A2101wa4124.A2101fn3124.A2101dW2124.A2101qe1124.A2101la5124.A2101eW2124.A2101ur31
24.A2101re1124.A2101XM124.A2101va1124.A2101ma5124.A2101na5124.A2101oa5114j621014j631u414i631w214i64
1Y714b511014b521024d81171W1014d811724o61111Z6024o61111l7024o61111gU024o61111xp3014Z821V24o61114Z821
V24o61111fA024Y81011pJ024Y81011rF014p611014y811514q621014v521014r621014n611014h511014x821614y821S14
x631l114y631l114w631f214w631r214x641h314y641h314x641i314y641i314_641r314.641r314x641k414y641k414x65
1_414y651_414_651Y514.651Y514W751Y514X751Y514x651u514y651u514x651v514y651v514W761k614X761k614x661z6
14y661z614s721014s731014v531014.721014v541014.731g314kA11024dB1104eB11034dB1104eB1101mv2034dB1104eB
1101qX3014b911014c911014eB11014dB11024o61114d811724o61111dr2034o61114d81171e6024o61111cD034o61114d8
1171rf4014mA21014mA31014mA41014mA51014mA61024o61111e6024o61111rf4014Y621B14Y631i114f611014x531b114X
641b314k621B14k651d714k661X814m631014m641W314q511014c521414a621014b621014c621014d621014u821014w8216
14r521014c531O14g630Q14c531014j531W114j531014Z631X114s531014t531a114y531c114_531d114W631h114Y631j11
4a631k114b631k114d631014e631014u831014.831d214X931e214c541o214c541p214j541v214j541014j541o214j541W1
14s541014t541a114X941z214x541_214h621014_541.214l621B14Y641c314y641l114k841q314v841c414.841f414.841
g414Y921014c541j414c551n414a951p414j551n414j551v214z851014j551o214w521014h631014X651b314y651h314y65
1i314k851X514.651r314v851k514v851l514.851o514Y931q214Y931014c551t514y651k414v851x514a961z514j561n41
4z561Y614y661_414.661Y514X761Y514v861u614Y941w614Y941y614y661u514y661v514v861_614v861.614z571a714z5
71b714z571c714X771k614u871v714Y951w614Y951y614y671z614v871w714z581_714z581.714z581W814z591q814.551W
614.551X614.561Z714.571z714x721014x731014x741014lA31o114lA41o114lA51o124bB1104cB11014f731f214k931f2
14f731g214k931g214h821014f731h214f731i214g741h414g751q514o611024o61104d811714i711014bA21w114y721024
Y81001tF034o61104Y81004v911E24o61104v911E24o61101dc5024o61101bV024v911E1.z4014v911E24o61101ff5024o6
1101tY1014WB21N24WB21N1ur3124Y81001fH014Y810024Y81004v911E24o61111r7014z731f214Z821024Y81001wD024o6
1104Y810024o61114kA11024WB21N1tZ3014_721I14_731j234o61104v911E4Z821014WB11214l831034o61114kA1104Z82
1V24o61104Z821024o61101gA024Y81001rJ024jB21N1sW3124jB21N1er2114jB21N24jB21N1bk1124jB21N1ZA124jB21N1
WX2124jB21N1Xc5124jB21N1id4124jB21N1jd4124jB21N1mx2124jB21N1uY4124jB21N1yq1124jB21N1Ww1124jB21N1ae2
124jB21N1zq1124jB21N1Xw1124jB21N1qe2124jB21N1yp2124jB21N1fr2124d81171Yl1024d81171eu1024d81171zv1024
d81171iq1024d81171Zr1024d81171uf2014d721C34d81174bB21T4cB21U14v911014o911H14kA21X214v911G14m921014c
721I14l921I14ZA21I14p821K14d731t114n831014n831k214o831k224q62104mA21014u621014v621024u62104wA21014w
A21014gA21814hA11014fA11D14o911014bA21x114zA21o114yA21o114x921014_921z114xA21o114iA21014y921W214cA2
1014_921Y214l921Z214aA21x314ZA21y314aA21z314jA31o114wA31014x931014_831W424w631f24_831W424w631r24_83
1W414_A31Y414k931Z414k931a414zA31b414yA31b414vA31014XA31f214XA31g214XA31e514XA31f514wA41014u941h514
y941i514dA41k214_A41j514wA51014u951s614u951t614u961u714z971n814.931r514.931s514x621B14t721014q721J1
4Y731R14q631014w731014u631014x631p114x631q114_631r114d731s114t731014Y731b214c731j224o61104v911G14c7
31l214Y731m214q641T14q641014u641014x641l314Y741m314_641n314Y741o314Y741p314W741n314d741s314v741v314
c741i414x641l414x641m414W751W514x651w514q631T14r631U24o61104fA11D24t72104x921024d81171pz4024u62104v
621024q631T4r631U24q62104r621014m821014h731P14p631014h731a214o731c224o731c21y4014j731c214h741t314h7
41u314n751p514p721824p72181y4014e721024e72101y4014p621014q721824q72181y4024p72181t4024e72101t4024q7
2181t4024o731c21t4014v731u134q62104r62104mA21034u62104v62104wA21014fB21024o731c21W5024p72181W5024e7
2101W5024q72181W5014f911924f91194v911G24t631s24h731P14t631s224t631s24h731a224t631a24h731a214t631a22
4r62104mA21024v62104wA21014f921e124v911G4f921e124p72181w4024e72101w4024q72181w4024o61104f911934o611
04f91194v911G24o731c21w4014k721w224k721w21pG024o731c21X5024p72181X5024e72101X5024q72181X5024o61104d
811014d811014m721014cB11014s811m124u63104e831014e831014f931X314s631a214f941s414f951Z634o61104fA11D4
Z821024o731c21x4024p72181x4024e72101x4024q72181x4024bB21T4cB21U14bB11014dB21014b831t224o731c21_4024
o731c21.4024p72181_4024e72101_4024q72181_4024p72181.4024e72101.4024q72181.4024o731c21Y5024p72181Y50
24e72101Y5024q72181Y5014bB21T24x621B4x631p114s821j324x631l14x641k424x631p14x641l424x631q14x641m424x
641h34x651u524x641i34x651v524x641l34x651w524x651_44x661z624k721w21kK024o731c21z4024p72181z4024e7210
1z4024q72181z4014jB11024jB1101bo2114jB21f324jB21f31go2114a831u214a841r314a841q414a851_514a851Y514a8
61W714a861k614a871x714a871y714a881o814a881p814a891X914a891Y914a8A1j914X821B14X831u414jB31f324WB21N1
uY4114YA51s714YA51t714i511014g811114f811514f821d314f831v414f841i614f851n714f861k824v911E4qA11F24v91
1E1iV014oA11514oA21q214oA31b514oA41o614oA51r714j921o114f821514oA21514f831d314oA31q214f841v414oA41b5
14f851i614oA51o614f861n714oA61r714f871k814u511524u51151w_4014Z711314Z721M14r631014v631014r641U14r64
1014v641014f871.814g921o114h921o114i921o114d911A14b711014qA11F14qA21y114tA21w314W921d414tA31a514tA3
1d514tA41q614f881.814i821e314i831q314i831z414i841a614i841X514i851e714i851f714i861c814i861d814i871r8
14i871s814i881b914i881g914i891l914W821014W831014W841014W851014e921A14t821o114t911H24iB2101xn3114iB2
1024iB2101.9114sA21o114mB21o114W921e424aB2101uc5114aB21024aB2101eA124qB2101zj1114qB21014nB21d414Z72
1L14n921014WA21014Z731n214r721024fB2101wF114u521Z114nA11v124Z71131mT014pA31014f821Z114oA21Z124Z7113
1oV024Z721M1nT014s921o124pB2101ft3114pB21024pB2101gV114rA21o114pA41014u521Y114f831x414f831x214tA31Z
514oA31c514oA31x224Z721M1vV014pA51014eA31b614uA41c614f841e614f841g614tA41l614oA41m614oA41n614tA41p6
14nB21e414f851h714f851l714uA51m714oA51o714oA51p714tA51q714uA61Y814uA61a814uA61b814f861g814f861j814o
A61l814oA61m814uA71u814uA71v814f871x814f871_814oA71W914uA81Z914uA81a914f881e914f881i914f891n924Z711
31.T024Z71131_W1024Z721M1WU024Z721M1YX1024Z71131eU024Z71131_Y1024Z721M1fU024Z721M1YZ1014d921g114r82
1n114qA21.114gB21024gB2101vb4114hB21024hB2101wb4124fB2101vC114cB21U14ZB21024ZB2101og3114e931Z314r83
1k314qA31.324iB1104pB11014iB11014mB21024mB2101nV114u731014lB21.424lB21.41iA114W931m514W931n514nB21v
624nB21v61kc4114oB21q214eA51Z814g811014z611014e521014f511524bB2101We2114bB21024cB2101tW2114cB21014g
511014eB21024dB2101s8124eB2101W8114l521W114f521q214e531014c831t214u531x214u531y224kB2101z6114kB2101
4f821Y114t831o124rB2101gi4114rB21014e541024XB2101ue3114XB21024YB2101ta3114YB21014f831w414j831q314f8
31y414f831y214lB21n124sB2101kT114sB21014w931014e551014f841d614f841f614f841h614j841X514j841a614f841j
624oB21x61Wr2114oB21x614q861X714f851g714f851i714f851j714f851k714j851e714j851f714f861e814f861f814f86
1h814f861i814j861c814j861d814f871t814f871w814f871y814f871z814j871r814f881c914f881d914f881f914f881h9
14f891k914f891m914f891o914f8A1p924fB2101zD124dB2101W9114k511014o511514d921f114qA21_114o521q214p5210
14e931Y314d931a314qA31_314p921Z114r921H14qA31X414f531o414o531r414o531o414e941t414qA41g514q931x214Z9
21Y114f541y514o541.514o541y51014n521014z621014d531014m531014n531014k531014n541014n5510"

/-- Reads one action. -/
private def action : Feed Action := do
  match ← next with
  | 0 => return .accept
  | 1 =>
    let target ← next
    return .shift target (← nextFlag)
  | 2 => return .shiftExtra
  | 3 => return .recover
  | _ =>
    let symbol ← next
    let count ← next
    let precedence ← next
    return .reduce symbol count ((precedence : Int) - 1) (← next)

/-- The action lists, by number. -/
def actionLists : Array (List Action) :=
  run actionText (many 838 (return (← counted action).toList))

end LayerAudit.Syntax.TypeScript
