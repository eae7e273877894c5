/-!
The names of characters, written down briefly. A dot and five hexadecimal digits give the code point
of the name that follows; without them it is one more than that of the name before. A name starts
with a hexadecimal digit, which tells how many words it has in common with the name before. The
other words follow, each by its number. Numbers are written with ten digits, 26 capital letters and
26 small letters: in two places, the first of them from `G` to `Z`, or in three places, the first of
them a small letter. Line ends mean nothing.
-/

namespace Coffer.Text

/-- The names, in the order of their code points, and behind them the further names that some
characters have. -/
def nameTable : String :=
".000200M10L7GL0KaGL0ITG50TjG50YsG50SB0RF0GAJQ0G8JQ0JC0GmG50IZ0a1a0IzIC0La0HKHg1GF1GE1GN1GT1GX1Gg1G
o1Gh1Gt0KI0Pl0IcG50K0G50IfG50KkGL0XRLQ0IxG4G1GC3Hu3Hj3Hb3GH3IK3HO3HV3GK3I63HR3Gj3HB3H13GD3Ho3Ie3Gc
3Ge3HS3GB3HT3Hy3Ht3Hd3Hl0GAGxGu0LwLa0G8GxGu0HvJh0HXI80ILJh0IxG2G1GC3Hu3Hj3Hb3GH3IK3HO3HV3GK3I63HR3
Gj3HB3H13GD3Ho3Ie3Gc3Ge3HS3GB3HT3Hy3Ht3Hd3Hl0GAL5Gu0GdI80G8L5Gu0HJ.000A00aA8M10IOL7GL0aK1G50a3BG50
XVG50ZnG50V8Gl0LYG50I50aKaG50aNCaVrSe0MKGJIuKaGL0IdG50OYPW0cT2G50IQ0a0dG50cOIG50P7GE1GN0HYJh0c6UG5
0aWqG50GbGM0Ke0P7GF0c4OaVrSe0LWGJIuKaGL0aDyMXGFKE3Gq2GNO70IOKkGL0IxG4G1GCG0IL5HY5Hv5HJ5I55HLG93KF3
HjG0Ke3GHG0IL5HY5Hv5I53GKG0IL5HY5Hv5I53SU3H1G0HJ3GDG0IL5HY5Hv5HJ5I50Q7G50IxG4G1GDG0GV3GBG0IL5HY5Hv
5I53HdG0HY3TQ1G2G1WaGe3GCG0IL5HY5Hv5HJ5I55HLG93KF3HjG0Ke3GHG0IL5HY5Hv5I53GKG0IL5HY5Hv5I53SU3H1G0HJ
3GDG0IL5HY5Hv5HJ5I50SOG50IxG2G1GDG0GV3GBG0IL5HY5Hv5I53HdG0HY3TQ3HdG0I51G4G1GCG0IQ1G2G1GCG0IQ1G4G1G
CG0Ij1G2G1GCG0Ij1G4G1GCG0O51G2G1GCG0O51G4G1HjG0HY1G2G1HjG0HY1G4G1HjG0Hv1G2G1HjG0Hv1G4G1HjG0GMG91G2
G1HjG0GMG91G4G1HjG0JG1G2G1HjG0JG1G4G1HbG0JG1G2G1HbG0JG1G4G1HbG0GV1G2G1HbG0GV1G4G1GHG0IQ1G2G1GHG0IQ
1G4G1GHG0Ij1G2G1GHG0Ij1G4G1GHG0GMG91G2G1GHG0GMG91G4G1GHG0O51G2G1GHG0O51G4G1GHG0JG1G2G1GHG0JG1G4G1H
OG0Hv1G2G1HOG0Hv1G4G1HOG0Ij1G2G1HOG0Ij1G4G1HOG0GMG91G2G1HOG0GMG91G4G1HOG0Ke1G2G1HOG0Ke1G4G1HVG0Hv1
G2G1HVG0Hv1G4G1HVG0GV1G2G1HVG0GV1G4G1GKG0HJ1G2G1GKG0HJ1G4G1GKG0IQ1G2G1GKG0IQ1G4G1GKG0Ij1G2G1GKG0Ij
1G4G1GKG0O51G2G1GKG0O51G4G1GKG0GMG91G2G1OPGK1G4KCaPj1G2KCaPj1G4G1I6G0Hv1G2G1I6G0Hv1G4G1HRG0Ke1G2G1
HRG0Ke3buw1G4G1GjG0HY1G2G1GjG0HY1G4G1GjG0Ke1G2G1GjG0Ke1G4G1GjG0JG1G2G1GjG0JG1G4G1GjG0GbGM1G2G1GjG0
GbGM1G4G1GjG0GV1G2G1GjG0GV1G4G1H1G0HY1G2G1H1G0HY1G4G1H1G0Ke1G2G1H1G0Ke1G4G1H1G0JG1G2G1H1G0JG4cOyPK
RF1G4G1PQ1G2G1PQ1G4G1GDG0IQ1G2G1GDG0IQ1G4G1GDG0Ij1G2G1GDG0Ij1G4G1GDG0GJHY1G2G1GDG0GJHY1G4KCJf1G2KC
Jf1G4G1GcG0HY1G2G1GcG0HY1G4G1GcG0Ke1G2G1GcG0Ke1G4G1GcG0JG1G2G1GcG0JG1G4G1GeG0HY1G2G1GeG0HY1G4G1GeG
0Hv1G2G1GeG0Hv1G4G1GeG0Ke1G2G1GeG0Ke1G4G1GeG0JG1G2G1GeG0JG1G4G1HSG0Ke1G2G1HSG0Ke1G4G1HSG0JG1G2G1HS
G0JG1G4G1HSG0GV1G2G1HSG0GV1G4G1GBG0HJ1G2G1GBG0HJ1G4G1GBG0IQ1G2G1GBG0IQ1G4G1GBG0Ij1G2G1GBG0Ij1G4G1G
BG0HLG91G2G1GBG0HLG91G4G1GBG0GJHY1G2G1GBG0GJHY1G4G1GBG0O51G2G1GBG0O51G4G1HyG0Hv1G2G1HyG0Hv1G4G1HdG
0Hv1G2G1HdG0Hv1G4G1HdG0I53HlG0HY1G2G1HlG0HY1G4G1HlG0GMG91G2G1HlG0GMG91G4G1HlG0JG1G2G1HlG0JG3HrGe3H
uG0GV1G4G1HuG0GU5a4Y1G2G1HuG0a4Y1G4G1HxGg1G2G1HxGg1G4G1HmGD3HjG0GU1G2G1HjG0GU1G4G1a58Hb3HbG0GU5a4Y
1G2G1HbG0a4Y3HqMH1G4G1I4GH3Qw3HmGH3IKG0GU1G2G1IKG0GU1G4G1HOG0GU3Lr1G2G1a1Z1G4G1KR3GKG0GV3HRG0GU1G2
G1HRG0GU3GjG0Gl3bxOG0GV1G4G1HqHB3H1G0GAGU1G2G1H1G0HrG8NG1G4G1GDG0GbHJ5K41G2G1GDG0K41G4G1Yj1G2G1Yj1
G4G1HoG0GU1G2G1HoG0GU1G1aeY1G4G1HxGE1G2G1HxGE1G4G1Mn1G1I4MnMx1G2G1HSG0KjGU1G4G1HSG0GU1G2G1HSG0GU1G
4G1HSG0JSGU3GBG0K41G2G1GBG0K41G4G1Kv3HTG0GU3HdG0GU1G2G1HdG0GU1G4G1HlG0GV1G2G1HlG0GV1G4G1RW4I41G2G1
RWI44G0Io1G1GEG0GV1G4G1HxGX1G2G1HxGX1G1IOKoICG0GV2a4s2a6cPx2aRQPx2aHgPx2JSPx1G4G1SRG0JG3HbG0G2G1Hl
G0JG1G2G1SRG0JG1G4G1aRt3GjG0G2G1I61G2G1aRt1G4G1aUw3H1G0G2G1I61G2G1aUw1G4G1GCG0JG1G2G1GCG0JG1G4G1GK
G0JG1G2G1GKG0JG1G4G1GDG0JG1G2G1GDG0JG1G4G1GBG0JG1G2G1GBG0JG1G4G1GBG0I5G6IQ1G2G1GBG0I5G6IQ1G4G1GBG0
I5G6HY1G2G1GBG0I5G6HY1G4G1GBG0I5G6JG1G2G1GBG0I5G6JG1G4G1GBG0I5G6IL1G2G1GBG0I5G6IL3HqGH1G4G1GCG0I5G
6IQ1G2G1GCG0I5G6IQ1G4G1GCG0GMG9G6IQ1G2G1GCG0GMG9G6IQ1G4G1KFG0IQ1G2G1KFG0IQ1G4G1HOG0GV1G2G1HOG0GV1G
4G1HOG0JG1G2G1HOG0JG1G4G1HRG0JG1G2G1HRG0JG1G4G1GDG0O51G2G1GDG0O51G4G1GDG0O5G6IQ1G2G1GDG0O5G6IQ1G4G
1RWG0JG1G2G1RWG0JG3I6G0JG1G4G1SR3HbG0G2G1Hl1G2G1SR1G4G1HOG0HY1G2G1HOG0HY1G4G1aPR3a4s3H1G0IL1G2G1H1
G0IL1G4G1GCG0HLG9G6HY1G2G1GCG0HLG9G6HY1G4G1KFG0HY1G2G1KFG0HY1G4G1GDG0GVG6HY1G2G1GDG0GVG6HY1G4G1GCG
0GJIL1G2G1GCG0GJIL1G4G1GCG0IOIj1G2G1GCG0IOIj1G4G1GHG0GJIL1G2G1GHG0GJIL1G4G1GHG0IOIj1G2G1GHG0IOIj1G
4G1GKG0GJIL1G2G1GKG0GJIL1G4G1GKG0IOIj1G2G1GKG0IOIj1G4G1GDG0GJIL1G2G1GDG0GJIL1G4G1GDG0IOIj1G2G1GDG0
IOIj1G4G1GcG0GJIL1G2G1GcG0GJIL1G4G1GcG0IOIj1G2G1GcG0IOIj1G4G1GBG0GJIL1G2G1GBG0GJIL1G4G1GBG0IOIj1G2
G1GBG0IOIj1G4G1GeG0IZGG1G2G1GeG0IZGG1G4G1HSG0IZGG1G2G1HSG0IZGG1G4G1aeX1G2G1aeX1G4G1HVG0JG1G2G1HVG0
JG1G4G1H1G0HrG8NG1G2G1HbG0Lo1G4G1Sz1G2G1Sz1G4G1HlG0GU1G2G1HlG0GU1G4G1GCG0GMG91G2G1GCG0GMG91G4G1GHG
0Ke1G2G1GHG0Ke1G4G1GDG0I5G6IQ1G2G1GDG0I5G6IQ1G4G1GDG0HJG6IQ1G2G1GDG0HJG6IQ1G4G1GDG0GMG91G2G1GDG0GM
G91G4G1GDG0GMG9G6IQ1G2G1GDG0GMG9G6IQ1G4G1HdG0IQ1G2G1HdG0IQ3GjG0Lo3H1G0Lo3HSG0Lo3OPI63aLDKn3cQwKn1G
4G1GCG0GV3HjG0GV1G2G1HjG0GV1G4G1GjG0Gl3HSG0JHGV1G2G1GeG0WkIo3HlG0WkIo1G4G1KoIC1G2G1KoIC1G4G1HuG0GV
3GBGl3HqHT3GHG0GV1G2G1GHG0GV1G4G1I6G0GV1G2G1I6G0GV1G4G1G2IeG0GUIo1G2G1IeG0GUIo1G4G1GcG0GV1G2G1GcG0
GV1G4G1HdG0GV1G2G1HdG0GV3HqGC3K93HqK93HuG0GU3HmGD3HjG0Lo3HbG0Io5GU3I4GH3Qw4G0GU3HmGH3I4HmGH6G0GU3J
zI4HmGH3OPI6G0GV3HOG0GU3LXHO1G1G2G4HO1G2G1Lr3aXwK43HqHV3HVG0GU3XvG0GU3GKG0GV3KR1G1G2G4GK1G2G1GjG0G
bHJ5Pv5JSGU3a8w3HqHB5G0HrNG3HBG0GU3H1G0GAGU5JSGU1G1G2G4H11G2G1QTGD1G1G2G4Jf1G2G1JzJo3LL3HqGc5G0HrN
G6GU3GcG0HrNG5Io5To3I4GcG0To1G1G2G4Gc4IOGc1G2G1GeG0GU3Mn3OPI6G0GVG6GU3aaOI4Mn3MnG0Lo3HqHS3HSG0JSGU
3GBGl3Kv3HTG0GU3HqHT4Hy4Hd1G1G2G4Hd1G2G1HlG0JSGU5Lo3RW4G0Lo1G1KoIC2aWdR8bbn2IOKoIC2aCgHj2a5bPx2G2G
4Hu1G2G1JzHmGH1G1G2G4HOG0GU4HV1G2G1I6G0RO3HqHR1G1G2G4Gj1G2G1IeG0GU1G1KoICG0GV2I4KoICG0GV1G2G1SRKn3
a0fKn3SRKnG0Lo3aDaKn3a4NKn3abcKnG0Lo3a7CKn3aS1Kn3aSCKn1G1a5baWV2b0DaWV1G2G1HqHVG0To7G6Io0KYG1G2HV4
G0GU3I63Gc3HqGc5G0GU3G4IOGc3Hy3Hd2Ph2GJPh2HqIZ2RF2I4IZ2G8GqHL2GAGqHL2KoIC2I4KoIC2GAIF2G8IF2GfIF2Gp
IF2HvJh0JG0KYG1GdI82IQ2HYJh2ILJh2HXGdI83IQ3ILJh3HYJh2M3KI2GqM3KI2SIG8GqHL3GAGqHL2GfK72GpK72GmG52My
G50Ij0GMG90HLG90O50G2HJ0GJHYJh0KYG1cTgGU2JDJh2G2Lr3Gj3Ge3Ht3I4KoIC2a11HxGl2I2HxGl2UAHxGl2HXHxGl2a1
2HxGl2S9a6dHxGL2Psa6dHxGL2adf2cuH2GJRF2HXGpIF3GfIF3GAIF3G8IF3HL2GbILJh3GJILJh4HYJh2HXHJ2LCKI2SEI2H
x2JsI2Hx2SEHXHx2JsHXHx2aZL2HmaZL2HXGAG70JiILJh1HYJh1HvJh1HJ1IQ1T01Ij1GMG91I51GUG91HLG91GJHYJh1JG1G
dI8G91GJGdI8G92ILJh1KM1IOIj1HqIZG91IZG91I4IZG91IZG9G81ILJhGG1HYJhGG1GAK7GG1G8K7GG1GAIuG91K41GAGqHL
GG1GfK7GG1GpK7GG1GmG5GG1MyG5GG1cL0GUGG1JSGUGG1GMGG1I5GG1HLGG1IZGG1Ke1O51GdI8GG1V7GG1IOGJaI1GG1JGGG
1HvJhGG1IjGG1IOIjGG1HJGG1IQGG1HXI81GJHXI81HJLj1J0GVLj1HrGVLj1J0LaLj1HrLaLj1G8GqHLGG1IOV7GG1GxGG1cY
LGG1HtG91GdHJ1GJT01ILHxGL1HYHxGL1LIJL2a8f2ONMf2Jr1V7G91K0G5GG1GJGdI8GG1GAIuGG1IdHJG91aPIG91NOHDGOG
91GAG8G7GG1HaG7GG1bfuTy1G8IFG91GAGqHLG91aND1HtGG1GAIFGG1G8IFGG3G6GfIFGG2GqHLG91GMG9G81JCGG1GJHLGG1
TaG91GJIjGG32IQ3GG2HJ2IOIj2GZG7GG1IxG2G1GC4GH4GK4GD4GB4Hj4Hb4HV4HB4Gc4HS4HT4Ht0LIG4G1aOz1G2G1aOz1G
4G1MQWV1G2G1MQWV1QtG51HPQtG51G4G1aW7VM1G2G1aW7VM.0037A1Jr1G2I4QpLEGW2JlQpLEGW2I4JlQpLEGW1KkGL1G4G1
Zp.003841Mf1ONMf1G4G1K9G0Mf1SCabh1G4G1L6G0Mf3M9G0Mf3KRG0Mf.0038C3MzG0Mf.0038E3KvG0Mf3JoG0Mf1G2G1KR
G0ONG6Mf1G4G1K93MT3Lr3MH3L63PB3M93LN3KR3Mu3OT3Jm3KK3OE3Mz3JR3L2.003A33LE3N43Kv3LL3LS3NH3Jo3KRG0ON3
KvG0ON1G2G1K9G0Mf3L6G0Mf3M9G0Mf3KRG0Mf3KvG0ONG6Mf3K93MT3Lr3MH3L63PB3M93LN3KR3Mu3OT3Jm3KK3OE3Mz3JR3
L23GILE3LE3N43Kv3LL3LS3NH3Jo3KRG0ON3KvG0ON3MzG0Mf3KvG0Mf3JoG0Mf1G4W0GW1MTGW1LNGW1KvG0GUGW3HYG6GUGW
3I5G6GUGW1LLGW1JRGW1W0GW1G1MQW71G2G1MQW71G1aCa1G2G1aCa1G1VM1G2G1VM1G1W71G2G1W71G1WV1G2G1WV0LHG4G1T
E1G2G1TE1G4G1aNB1G2G1aNB1G4G1W51G2G1W51G4G1Vq1G2G1Vq1G4G1Vg1G2G1Vg1G4G1UR1G2G1UR1G4G1aLS1G2G1aLS0L
IMuGW1L2GW1QpLEGW1G1Zp1G4LNGW1QpL6GW1I4QpL6GW1G4G1QF1G2G1QF1G4QpLEGW2G1WW1G2G1WW1L2G0GVGW1G4I4QpLE
GW2JlQpLEGW2I4JlQpLEGW0OLG4G1NDG0IL3a893a0h3a7c3aDoND3SS3aJjGK3Kl3PX3a2E3Sw3acc3aQl3GKG0IL3J0GB3aM
F3GC3Np3Nm3Mr3Lp3ND3No3M73GK3J0GK3Gv3Lq3Mm3J43GD3JB3Nx3Q03Jx3GB3Qc3Gs3Oc3LR3IA3aBu3QkG53QN3OYG53GH
3Ju3H91G2G1GC3Np3Nm3Mr3Lp3ND3No3M73GK3J0GK3Gv3Lq3Mm3J43GD3JB3Nx3Q03Jx3GB3Qc3Gs3Oc3LR3IA3aBu3QkG53Q
N3OYG53GH3Ju3H93NDG0IL3a893a0h3a7c3aDoND3SS3aJjGK3Kl3PX3a2E3Sw3acc3aQl3GKG0IL3J0GB3aMF1G4G1Jo1G2G1
Jo1G4G1S81G2G1S81G4G1NYGH1G2G1NYGH1G4G1ImKm1G2G1ImKm1G4G1NYImKm1G2G1NYImKm1G4G1OIKm1G2G1OIKm1G4G1N
YOIKm1G2G1NYOIKm1G4G1a201G2G1a201G4G1NH1G2G1NH1G4G1Tp1G2G1Tp1G4G1Vx1G2G1Vx1G4G1VxG0GJILJh1G2G1VxG0
GJILJh1G4G1Wr1G2G1Wr1G4G1PjJo1G2G1PjJo1G4G1JoG0a4T1G2G1JoG0a4T1G4G1a2t1G2G1a2t1G4G1W71G2G1W71TRG50
JiOLa4T2cKz2I1aX62I3aX62cOS2GrTRG52UBG50OLG4G1J0GKG0Io1G2G1J0GKG0Io1G4G1aZ9G51G2G1aZ9G51G4G1NxG0R2
1G2G1NxG0R21G4G1MrG0aDr1G2G1MrG0aDr1G4G1MrG0GV1G2G1MrG0GV1G4G1MrG0GbGU1G2G1MrG0GbGU1G4G1NoG0Jd1G2G
1NoG0Jd1G4G1M7G0Jd1G2G1M7G0Jd1G4G1GvG0Jd1G2G1GvG0Jd1G4G1GvG0GdGV1G2G1GvG0GdGV1G4G1GvG0GV1G2G1GvG0G
V1G4G1aIbGv1G2G1aIbGv1G4G1J4G0Jd1G2G1J4G0Jd1G4KCJ4Mr1G2KCJ4Mr1G4G1JBG0GbGU1G2G1JBG0GbGU1G4G1SAGs1G
2G1SAGs1G4G1Q0G0Jd1G2G1Q0G0Jd1G4G1JxG0Jd1G2G1JxG0Jd1G4G1LbGB1G2G1LbGB1G4G1LbGBG0GV1G2G1LbGBG0GV1G4
G1GsG0Jd1G2G1GsG0Jd1G4KCJxOc1G2KCJxOc1G4G1LRG0Jd1G2G1LRG0Jd1G4G1LRG0GdGV1G2G1LRG0GdGV1G4G1a3p1G2G1
a3p1G4G1SALR1G2G1SALR1G4G1SALRG0Jd1G2G1SALRG0Jd1G1aW51G4G1NoG0Ij1G2G1NoG0Ij1G4G1GvG0GU1G2G1GvG0GU1
G4G1LqG0Io1G2G1LqG0Io1G4G1J4G0GU1G2G1J4G0GU1G4G1J4G0Io1G2G1J4G0Io1G4G1aQdLR1G2G1aQdLR1G4G1MmG0Io1G
2G1MmG0Io3aW51G4G1GCG0Ij1G2G1GCG0Ij1G4G1GCG0I51G2G1GCG0I51G4KCGCND1G2KCGCND1G4G1NDG0Ij1G2G1NDG0Ij1
G4G1Qw1G2G1Qw1G4G1QwG0I51G2G1QwG0I51G4G1NoG0I51G2G1NoG0I51G4G1M7G0I51G2G1M7G0I51G4G1SASS1G2G1SASS1
G4G1GKG0IQ1G2G1GKG0IQ1G4G1GKG0I51G2G1GKG0I51G4G1GDG0I51G2G1GDG0I51G4G1QTGD1G2G1QTGD1G4G1QTGDG0I51G
2G1QTGDG0I51G4G1GHG0I51G2G1GHG0I51G4G1GBG0IQ1G2G1GBG0IQ1G4G1GBG0I51G2G1GBG0I51G4G1GBG0GJHY1G2G1GBG
0GJHY1G4G1LRG0I51G2G1LRG0I51G4G1MrG0Jd1G2G1MrG0Jd1G4G1QNG0I51G2G1QNG0I51G4G1MrG0GVG6GU1G2G1MrG0GVG
6GU1G4G1GsG0GU1G2G1GsG0GU1G4G1GsG0GV1G2G1GsG0GV1G4G1NaLp1G2G1NaLp1G4G1Naa0h1G2G1Naa0h1G4G1Naaeu1G2
G1Naaeu1G4G1NaaMH1G2G1NaaMH1G4G1Naa2E1G2G1Naa2E1G4G1NaSw1G2G1NaSw1G4G1NaaZt1G2G1NaaZt1G4G1NaacA1G2
G1NaacA1G4G1I4M71G2G1I4M71G4G1LqG0GU1G2G1LqG0GU1G4G1Sk1G2G1Sk1G4G1Rw1G2G1Rw1G4G1Zl1G2G1Zl1G4G1MN1G
2G1MN1G4G1LG1G2G1LG1G4G1aHaGv1G2G1aHaGv1G4G1LqG0GbGU1G2G1LqG0GbGU1G4G1J4G0GbGU1G2G1J4G0GbGU1G4G1JB
G0Jd1G2G1JBG0Jd1G4G1a3pG0Jd1G2G1a3pG0Jd1G4G1J4G0GAGU1G2G1J4G0GAGU1G4G1aMM1G2G1aMM1G4G1aLE1G2G1aLE1
G4G1LqG0Jd1G2G1LqG0Jd.005310XBG4G1a5O3a5a3a7b3HM3VS3J93Qd3Ol3GO3No3a863aRs3aEE3II3Y93L83IG3aOC3aKA
3Rp3Kl3a2h3IA3R73IM3WP3aQ23H23aZ33aDx3ac93KS3PN3aER3aAv3a8T3Yi3Li.005591KYG1GAGqHL1RF1aMjGL1L7GL1I
Z1KkGL1MhGL1G2G1Hqa5O3a5O3a5a3a7b3HM3VS3J93Qd3Ol3GO3No3a863aRs3aEE3II3Y93L83IG3aOC3aKA3Rp3Kl3a2h3I
A3R73IM3WP3aQ23H23aZ33aDx3ac93KS3PN3aER3aAv3a8T3Yi3Li2KCVSaER2G1KlG0GV1IzIC1PW.0058D0a3aXBa74G50a2
BXBa74G50XBaM1G5.005910aOtJhbYC2aBn2ceE2d9WaXZ3bdK2cpC2cTa2d9Y2cLr2d7N2cns2aO23c8f2aO32cQPaWB2abib
ds2cMA2aubbhA2c8X2c3c2c5N3bsd2bNu2cQK2abicQT2d7Ha5ad7x2cJX2bof2bOn2dAM1GLc4QGz1Oxced2bhhaBn3a2z3a3
G2aP82crK2aBn2a2z2a3G2aPF3bhgJjWu2cR02LgHna9E2c5T1JMc471Oxa3L1JMcLp1OxKbGM2a3xGM1JMaa6cLy1GLHkGM2H
PGM1JMJAbhB1Oxa3GaXZ.005D01G1HC2V42NU2a0b2JX2Wu2Of2aOy2Ug2RB2GIKW2KW2a282GIMb2Mb2GIJA2JA2Ng2PF2GIJ
B2JB2GIaDb2aDb2aBJ2P22Kb2aCx.005EF1RBHQ1KCaeSGJWu3WuRB3GJRB1JMaO22aO3.006000MPITG51G5cXY1aNUSo1G5a
Yn2cXW1ITGLG90QRa6MZ81a1DZ80MPaXy0QRaAlaTeG52HsH5G50arbG50MPIZ1aLBKT1cOOaDwG51G5c752aYqX5d3v2X5auL
2cSMX52aXtasRasy2cmh1G2I2Ku3KCHCG0JtG0H33OG2PR2Qa2Op1Pl1G1GL1JsGRR1GL1JEGMJMGL1KkGL1G1aQQH32Jv2HCG
0RoG94JvG92JqG0JvG92HCG0JvGG2H3G0JvG92HC2MG2Mea9F32Pp2Hp2Hc2Iq2OM2Uh2KS2OG2L42Md2Lk2MV2Ku2QO2K82NA
2W3G0GEH0G94GNH0GG2TmH3G0IOHT5GEH0G95GNH0G91a4K1G1Li2LB2KW2Jt2Gk2Jk2Kg2Jq2HCIR2H31VZ1XW1Y71PR1Qa1O
p1WZ1UZ1aSvG91JvG92GG1UYHC1IOQa1GLJka1I1dAm1HGG5G2HTG93IOG2HTG93GMGG1I4Qa1PRG0GEH01R9JvGG0QRHKHg2G
F2GE2GN2GT2GX2Gg2Go2Gh2Gt0MPYsG51a6ZKT1TRKT1GXK2Ig1G1OPMG3LB2P7HC2HCaE23G0R9JvG96GG2I2Jv4HC4Jq2GBG
0JvG92I2JvH32aDe2acj2aIp2MeG0HL4GNH0G9HN2WP2abg2aIs2HcG0JvG94GEH0GdG92aVU2aMD2HcG0GNH0G92a4L2abe2a
LH2OMG0HL4GMGG6G6G2Ku2aKx2aLG2aM92OMG0GNH0G9HN4GTH0G92aYc2KSG0G2HT4HL4GMGG4G2HTGG4GMGGG6GMG94GEH0G
92aQ12KSG0GTH0G92L4G0GMGGG6GMG94GNH0GG7G6GNH0G92LkG0GEH0GG4GNH0G92KuG0GNH0G92K8G0GNH0G92OPLi2LiG0G
Mc7zGG5GG2adV2LiG0GNH0GG2aWO2LBG0GMG94GNH0G92W32WkKW2KWG0HL4GMG92Mc2KWG0GNH0GG2Vf3G0HL2aUo2VfG0GEH
0GG2aOV2VfG0GNH0G92JtG0G2HT4GMG94GNH0G96GG2JkG0GMGG3a1I2aYR2JkG0HL4GNH0G92KgaLs2a4LG0GMG92KgG0H3G9
3a1K4G0JvG92Mea9Fa1K2JqG0HL2YCJf2Jf2GB2Ju2YCJu2JqG0GEH0G92Nm2TmH32H3G0Io4G2HT2JqG0GMG92GH2H3G0GNH0
GG3a0B4G0JvG91IzIC1G1KF1G2I2KCLkG0JtG0HCIR4LBG0JtG0HCIR3GkGYG33JtHC3Hp3GNH03L41JsGRaIK1TIGRaYeLqbj
71G2I2QuHg3cuZaY1Hg3OPMYGRIq3GkGQG32HXL42I2Ro2Jq2H32I2H33Jk1UIGRcXE1TkIiHXIC3I2IC1QuI2ICG0bagIi1G2
HXGk1G1OMG0IOHT2KSG0IOHT0SVQRHKHg3GF3GE3GN3GT3GX3Gg3Go3Gh3Gt0MPG1MdG0GMGG2MVG0GMGG2NAG0GMGG1G5cfzS
B3cOiRp1G1KgG0IOHT0ZLJsGRYq1aCmIzIC1a4DIzIC1aCmKI1a4DKI1HEKI1KIa3zGA3G81aCmKIa3zGA1a4DKIa3zG81bKn1
bhecJ72c5V2auN.0070F1MhGL1G1aHY2P7aHY2N82bdP3aNq2aKy2OPaKyaBZ2JX2Jq2OG2Ny2R03aNq2d8M3JX2NZ2bxN2a2P
2JA2aZA2GIaZA2GH2JB2I4JB2O92cQN2aBZ2Kb2Nk2aWXaIx3bef3bPL1cPYG92GG2Jl1dAZG92GG2Jl1cSiG92GG1JldASHE3
asv1bhqG92GG1bhrJl1bY1G92GG1cVr1aNCGM1cRH1cVW1GEGdH0G94GG1GNH0G93GG1O4I8G93GG1aU41ayx.0074D1G1aCOd
9m3aQe3PS0MPG1MGG0GNH0bldGG4GMGGG6GNH0G94GNH0ISHaGG9G6GEH0G94GEH0GGG6GMG94IOG2HTGG4G2HT2HcG0GEH0G9
4GNH0ISHaGG2OMG0GEH0UpGGG6G2Ku4IOG2HTGG2KSG0GV2L4G0GTH0G92K8G0GEH0G94GNH0ISHNG94GEH0UpG92LiG0GEH0G
G4GNH0ISHaGG2W3G0GMG94GNH0G96ISHaGG2GkG0GMG95GG2JkG0GEH0GG4G2Ku5HT2JtG0Gl2KSG0GEH0UpG94JvG92L4G0GE
H0UpG92HcG0G2MPG1KuGG8G6GEH02L4G0G2MPG1KuG6GEH02KSG0G2MPG1KuG6GEH02HcG0G2MPG1KuG92HCG0SVQRHKGEG97G
NG92TmH3G0SVQRHKGEG98GNG98GTGG2JqG0SVQRHKGEG97GNG92H3a0BG0SVQRHKGEG98GNG92HcG0SVQRHKGTGG2L4G0SVQRH
KGTG94IOHT2KWG0GEH0G90cnwG1Rc2ceN2cEp2Z12a062byN2brf2asL2cwL2c552bZn2bPI2ZO2bwL2bdI2bfS2cYS2bNy2d9
a2cn42X02cM72bq12b4K2ach2aP12aQb2cnv2aen2ceS2cX62bNV2GO2Pt2ary2bee2cQI2d3f1ar01apU1bnP1bWq1ctq1cJj
1bWm1bYf1cJB1cJ31UZ1G1WG.007C00cDxHKHg2GF2GE2GN2GT2GX2Gg2Go2Gh2Gt1G1GC2JP2GK2GH2GB2J82GD2bNc2H12He
2Gy2HI2IG2IM2HM2H22MO2HH2a7W2JW2Gv2H62H8ae22H72IN2H82Gs2IH2H92INae22bqlIG3IM3H21JiJ0I2Hx3HXHx3P3Hx
2Hra6eHx3I2Hx3HXHx3P3Hx2a9nGL2GJGMG91I2HxRF1HXHxRF1GWJ8bOy2bdf1IZ1L7GL1bwd.007FD1bNs1bQoG51cmlG50a
YsG1as92aJ42bdQ2bNk2a8F2a062Zr2a8E2ac72a4y2aQG2bwP2a2P2JA2cg12Il2Q12crH2cR32aBZ2QE2cmQ1GLIl2bos2cJ
G2Lg1KYG1aMra4y1GLaMra4y1HGG5HrGH3GH3aVwHh3HrHh3Hh3aVwGC3HrGC3GC1KYG1J0GC1HGG5J0GC3HrGB3GB1KYG1GK1
HGG5HrGK3GK3GD3UZ1GLaUX.008301JMaUX2ard2aso2az52aua2cel1MhGL1JMc5CaXb2dAP2aXb2d9M2cs92ato2aa6c4P2a
t5.008400c3uG1bhM2RD2Zw2Uu2PC2cun2aIM2a8E2aud2as42Zx2RE2QQ2KA2OH2Il2aHq2auU2X92a5J2JF2LQ2bVV2brl2K
81araGL1cyEGL1XoGL.0085E1JM.008600ZLG1aT1I93IG3IN3J23JI3Yf3JJ3H23Ks3U63JZ.008700MPG1HCG0UyPR5JUG8P
R4G8GbGV4GAGbGV4UyOp5KGG8Op5PjGMG95G8PjGM5GAPjGM5PjGMGG4GMG94UyJUG8PRG6GMG94G8GbGVG6GMG94UyKGG8OpG
6GMG95JUG8PRG6GAHL4G8GbGVG6GAHL4UyKGG8OpG6GAHL5G8Jv5GAJv1a4KG0cKOJv4Jq3GEH0GG1G1a4PH31aIaPjGM1LCPj
GM1G1JkG0IOG2HT2HcG0IOG2HTGG2KuG0GMGG4GNH0GG2W3G0GEH0UpGG1GdIo.008901a3BGLG91cNOGLG9.008981G2I2OCa
s72HXOCbph4boh4cmz1Rod3e1P7HCc7b1a0kRo1GqRoH4Ro1G1MGG0G2HTGG4JvG92HpG0GEH0G92KuG0GEH0G92LiG0GMGGG6
GNH0G92LBG0GMGG2JtG0GJGl2GkG0GNH0G92H3G0GEH0GGG6JvG98GMG92KSG0Mx2JqG0GMUr2aYUH32HXHC2OMG0GNH0GG2Lk
G0GNH0GG2VfG0IOGV2LbJq2OGG0IOHTG92K8G0GNH0GG2KWG0GMGG2LBG0GMGGG6JYH0G92MGG0G2GkG92WPG0G2GkG92MeG0G
2MeG92KSG0G2JkG92H3G0GEH0GGG6G2JkG92a58Li3LB3Jk2WPG0G2HT2MeG0G2HT2aDeG0G2HT2a4LG0G2HT2W3G0G2HT2NAG
0GNH0G92a58LBG0GNH0G92HpG0GNH0G96GG2JtG0G2MPG1KuG92bfq1G2TmH32I2TmH33H3a0BG0GEH0GG3OCaYo3QO1IJPjGM
G94GG1UZGG1IJGzGG2PjGMMZGzGG1G2HXJq2I2OCatZ3Lk3K83LB3JkG0Op2HXJkG0Op2I2OCauV4auA4asi4cXK4cQn4d3r3a
NUSo3G5aYn1bQBJsGRaIK1HqQaGG1L5PR2Qa2Op2VZ2XW2Y71HxGFGMG92GEH0G92MxG92GFGMGG2GEH0GG2MxGG1HmVZ2XW2Y
71G2I2Jq1PRG0HL3GMG91OpG0GMGG1GAIFG91G8IFG91GAIFGG1G8IFGG1GJG8IFG95G0GM1G8IFG9G0GM1QaG0GM1GLRyJka1
I0a6fG5IOKM2KM2J12Jy1G1J0GC2GC2Hh2GK2I02GB2IE2IhGc3Gj2NtGH2J0GH2GH2Hz2NtGD2J0GD2GD2I72Gv2IP2HU2J52
I92II2IM2IG2Jw2IN2J22JV2J32Jc2JI2HI2Ia2HM2J62H82Yf2Gy2In2He2JJ2H72H92H22MO2H62Ks2U62Is2IA2JZ2HH2Gs
1HGG5Jf3aVp1G5LK2NR1HGG5Hh3GK3I03GB3IE3IhGc4Jg3NtGH3J0GH3GH3Hz3NtGD3J0GD3GD3I71G5Jb1HGG5aB9GH3a5M1
Ov1aCfG5a4j3X71ILJh1HYJh1HGG5NtHrGH3Ln3aDu1G1MN2aQf2a7Z2J92aLI2Rw2JW2a4z2IhJg3K11HGG5IhGj4K11KV1GJ
KV1HKHg2GF2GE2GN2GT2GX2Gg2Go2Gh2Gt1MhG51G5I2aCRGM1G1NtGC2Jf2aVp2a5M2Ln2aDu2c4LJ32M82GaH92Vh2Y52KoI
C2a0c2Tf0azsa5H1G5KM2J12Jy.009851G1GC2Hh2GK2I02GB2IE2IhGc3Gj.0098F2GH2Hz.009932GD2I72Gv2IP2HU2J52I
92II2IM2IG2Jw2IN2J22JV2J32Jc2JI2HI2Ia2HM2J62H8.009AA2Gy2In2He2JJ2H72H92H2.009B22H6.009B62IA2JZ2HH2
Gs.009BC1G5LK2NR1HGG5Hh3GK3I03GB3IE3IhGc4Jg.009C73GH3Hz.009CB3GD3I71G5Jb1G1bt4HI.009D71I7O3GL.009D
C1G1MO2Rw.009DF2a4z2IhJg3K11HGG5IhGj4K1.009E61HKHg2GF2GE2GN2GT2GX2Gg2Go2Gh2Gt1G1H2G0GbJH4HPJH1UNGL
2G51XVaVHGF3GE3GN3GT3GFbyCWmJpaLV2aLVQy1aPu1bdTGL1G1ZdJ11MhG51ZCGL.00A010bgQG5arDaJ12aJ12Jy.00A051
G1GC2Hh2GK2I02GB2IE.00A0F2JP2Hz.00A132J82I72Gv2IP2HU2J52I92II2IM2IG2Jw2IN2J22JV2J32Jc2JI2HI2Ia2HM2
J62H8.00A2A2Gy2In2He2JJ2H72H92H2.00A322H62Ks.00A352Is2IA.00A382HH2Gs.00A3C1G5LK.00A3E1HGG5Hh3GK3I0
3GB3IE.00A473JP3Hz.00A4B3J83I71G5Jb.00A512ctr.00A591G1aQf2a7Z2J92MO.00A5E2JW.00A661HKHg2GF2GE2GN2G
T2GX2Gg2Go2Gh2Gt1cpD1arE1bpa1cud1VTcJh1G5d6r1MhG5.00A810bgHG5KM2J12Jy.00A851G1GC2Hh2GK2I02GB2IE2Ih
Gc3Gj1HGNtGH.00A8F1G1GH2Hz1HGNtGD.00A931G1GD2I72Gv2IP2HU2J52I92II2IM2IG2Jw2IN2J22JV2J32Jc2JI2HI2Ia
2HM2J62H8.00AAA2Gy2In2He2JJ2H72H92H2.00AB22H62Ks.00AB52Is2IA2JZ2HH2Gs.00ABC1G5LK2NR1HGG5Hh3GK3I03G
B3IE3IhGc4Jg3NtGH.00AC73GH3Hz3NtGD.00ACB3GD3I71G5Jb.00AD01Ov.00AE01G1IhJg3K11HGG5IhGj4K1.00AE61HKH
g2GF2GE2GN2GT2GX2Gg2Go2Gh2Gt1MhG51UNG5.00AF91G1M81G5UZ2WZ2aSv2coQLKG92GzLKG92ad1LKG9.00B010cK3G5KM
2J12Jy.00B051G1GC2Hh2GK2I02GB2IE2IhGc3Gj.00B0F2GH2Hz.00B132GD2I72Gv2IP2HU2J52I92II2IM2IG2Jw2IN2J22
JV2J32Jc2JI2HI2Ia2HM2J62H8.00B2A2Gy2In2He2JJ2H72H92H2.00B322H62Ks.00B352Is2IA2JZ2HH2Gs.00B3C1G5LK2
NR1HGG5Hh3GK3I03GB3IE3IhGc4Jg.00B473GH3Hz.00B4B3GD3I71G5Jb.00B552T01HzO3GL1I7O3GL.00B5C1G1MO2Rw.00
B5F2a4z2IhJg3K11HGG5IhGj4K1.00B661HKHg2GF2GE2GN2GT2GX2Gg2Go2Gh2Gt1aPu1G1IH1MXGFKE3Gq2GNO72GFWe3Kz2
GNa3y.00B820UdG5J12Jy.00B851G1GC2Hh2GK2I02GB2IE.00B8E2GH2JP2Hz.00B922GD2J82I72Gv.00B992I92II.00B9C
2IG.00B9E2IN2J2.00BA32JI2HI.00BA82H82Yf2Gy.00BAE2H72H92H22MO2H62Ks2U62Is2IA2JZ2HH2Gs.00BBE1HGG5Hh3
GK3I03GB3IE.00BC63GH3JP3Hz.00BCA3GD3J83I71G5Jb.00BD01Ov.00BD71I7O3GL.00BE61HKHg2GF2GE2GN2GT2GX2Gg2
Go2Gh2Gt1ITHs2GFGr3H51aLCG51a9YG51aeOG51bOcG51a6JG51OHG9G51UNG51ITG5.00C000cnaG5JiKMG92KM2J12Jy2Ji
J1G91G1GC2Hh2GK2I02GB2IE2IhGc3Gj.00C0E2GH2JP2Hz.00C122GD2J82I72Gv2IP2HU2J52I92II2IM2IG2Jw2IN2J22JV
2J32Jc2JI2HI2Ia2HM2J62H8.00C2A2Gy2In2He2JJ2H72H92H22MO2H62Ks2U62Is2IA2JZ2HH2Gs.00C3C1G5LK2NR1HGG5H
h3GK3I03GB3IE3IhGc4Jg.00C463GH3JP3Hz.00C4A3GD3J83I71G5Jb.00C551O3GL1HzO3GL.00C581G1Kc2Ok2cV3.00C5D
2aUFaX9.00C602IhJg3K11HGG5IhGj4K1.00C661HKHg2GF2GE2GN2GT2GX2Gg2Go2Gh2Gt.00C771G5UU1MXHKHgJjUFUKGRG
T3GFJjUFUKGRGT3GEJjUFUKGRGT3GNJjUFUKGRGT3GFJjVXUKGRGT3GEJjVXUKGRGT3GNJjVXUKGRGT1G5csE0aQMG5aCRKM2K
M2J12Jy2UU1G1GC2Hh2GK2I02GB2IE2IhGc3Gj.00C8E2GH2JP2Hz.00C922GD2J82I72Gv2IP2HU2J52I92II2IM2IG2Jw2IN
2J22JV2J32Jc2JI2HI2Ia2HM2J62H8.00CAA2Gy2In2He2JJ2H72H92H22MO2H62Ks.00CB52Is2IA2JZ2HH2Gs.00CBC1G5LK
2NR1HGG5Hh3GK3I03GB3IE3IhGc4Jg.00CC63GH3JP3Hz.00CCA3GD3J83I71G5Jb.00CD51O3GL1HzO3GL.00CDD1G1aUFaX9
2JW.00CE02IhJg3K11HGG5IhGj4K1.00CE61HKHg2GF2GE2GN2GT2GX2Gg2Go2Gh2Gt.00CF11G5Vz2Ws.00D000aT1G5JiJ1G
92KM2J12Jy1G1ZdJ12GC2Hh2GK2I02GB2IE2IhGc3Gj.00D0E2GH2JP2Hz.00D122GD2J82I72Gv2IP2HU2J52I92II2IM2IG2
Jw2IN2J22JV2J32Jc2JI2HI2Ia2HM2J62H82Yf2Gy2In2He2JJ2H72H92H22MO2H62Ks2U62Is2IA2JZ2HH2Gs2acn1G5GdGlJ
b2XOJb2NR1HGG5Hh3GK3I03GB3IE3IhGc4Jg.00D463GH3JP3Hz.00D4A3GD3J83I71G5Jb1G1GMcTK1G5aWB.00D541G1aKEH
B3Hd3bzD1I7O3GL1MXGFaVm3aNW2GNaMa2GFact3aD22GNacu2GFa7D1G1MQI02IhJg3K11HGG5IhGj4K1.00D661HKHg2GF2G
E2GN2GT2GX2Gg2Go2Gh2Gt1ITHs2GFGr3H51MXGFKE3Gq2GNO72GFWe3Kz2GNa3y1aLBGL1G1aKEYe3H13Jg3Gj3K13HR.00D8
10aZiG5KM2atF2cy5.00D851G1av42apd2arY2arQ2bpp2boX2cv02cux2bpd2bpc2bog2boe2bYe2bWu2as12cKR2cJn2auv.
00D9A2QPaQS2QqaQS2QPa7U2Qqa7U2bs0aUD2a3ha7U2QPaJv2QqaJv2QPa8G2Qqa8G2abQaUD3cXfc9y2a3ha8G2QPaci2Qqa
ci2QPa6X2Qqa6X2a9faUM2a3ha6X2QPabb2Qqabb2QPa6W2Qqa6W2a6UaUM.00DB32a3ha6W2QPaWI2QqaWI2QPa5Y2Qqa5Y2c
4e2asaa5Y2d772cSf.00DBD2a6UaRU.00DC02cwd2abQaBj2a9faBj2a6UaBj2bhp2a9faRU2baH.00DCA1G5as8.00DCF1HGG
5a573a8UaHQ3VLaHQ3a8UaPt3VLaPt3a8UaW0.00DD63VLaW0.00DD83aNm3a8d3VLa8d3bucbOp3a8dRca575VLa575a7V3a7
V.00DE61bz5HKHg3GF3GE3GN3GT3GX3Gg3Go3Gh3Gt.00DF21HGG5VLaNm4a7V1JMbvM.00E010cnyNSLJW02U2aQc3btK3btP
3btF3cSS2UEcCa2RLb4D3b4n3b4E2LMLM2RLb4z2KLd7g2MIb462GOcM02NlWm3cA93cNL2JYa9u2MIbOo2GOcmr2Nlcoa3cnx
3abw2JYKK2PJayf2N0a362QAcNK2PUJW2QAcN02PUaN92QAcXV2LuH72KLaEJ2L3cVR2Lx2MLaRn2LV2Ldd3h2LMcXM3cVm3aC
j2L8Xx2MLb592GDPD2L8cEh2cKy2aBgGC2OsbhR2aBgHh3QQ3GK3I03Ln3ctw3GB3IE2cND.00E3F1XVGWaye1NSaBgGH3KF3G
D3Hzc3i4c3h2bxM2c3l2c3k2OsVT3Nl3cqQ3b4I2co22cDC2d6u2bbN1HKHg2GF2GE2GN2GT2GX2Gg2Go2Gh2Gt1NSasr2btE.
00E810aROG1LJ2U2Wj.00E843Uc.00E862T2J52UE2PN2T2IM2LMUc.00E8C2T2Jw2Rs2T2IN3J23JV3J33Jc3JI2MI2GO2NlW
j3Uc2T2J62JY2PJ2N02QAWj2PUUc2QAUc2PUWj2T2JJ2Lu2KL2MLaRn.00EA53aRx.00EA72Ld2cXdIA3JZ2LMWj2L8Wj2T2Ks
2GD2L8Uc1ST1HGG5GC3OsW13Hh3QQ3GK3I03Hd3aEW3GB3IE1G5T2Jb1HGG5OsaQs1ccgG5ML3Rs.00EC01HGG5GH3RQ3GD3PE
3Hz.00EC61LJH6.00EC81HxOsVT3Nl3N53b3G1a0KGL1cD6.00ED01HKHg2GF2GE2GN2GT2GX2Gg2Go2Gh2Gt.00EDC1L8JY2L
u1G1btCOm3Rs.00F000aDENMOv1GLa7jRAOUcr9GC5afCaYQaIjH76a7jQIH72GYRAOUaTFH72XQRAOUaZEH72QYRAOUaWgNhH
72RAOUQINhH72cXwNh2b1RRAOU2aJ6aC0RAOU2bpPQI2a0eQIb1S2Nh2a2nNh2QINh2a2nQINh2cUFb4UchuNh2aYCaONNh2QY
aEcPkKXHrNs2a7jQI1bzNG5b45Pk3byMPk1aIBG5ce7bdmaf9Pk3afAGy3cYFcrP1G5a3Pa6paNx4aOI4a7i3a9laNx4aOI3a6
pa3Pa9l1HKHg2GF2GE2GN2GT2GX2Gg2Go2Gh2Gt2GqGF3GE3GN3GT3GX3Gg3Go3Gh3Gt3Hg1GLb1PPk2aUdaJlOVaev2QYaEcP
ka5qaTcNs2aUdaJlce6Pk2LROU2KcafB2bgEPkaOg4aOf2PDbt5aOg4aOf1G5aeKacd2aT4acd1G1Gv2IP2HU2J52I92II2IM2
IG.00F492IN2J22JV2J32Jc2JI2HI2Ia2HM2J62H82Gy2In2He2JJ2H72Kc2OB2Ok2Xd2IH2M82J92Ut2H92H22H62IA2JZ2HH
2Gs2GC2YH2aNIH22a8a2MO.00F711HGG5Hh3GK3I03GB3IE3IhGc4Jg4Gj4K13GH3JP3GD3J81G5cUPMFI9L32aYQaIj1HGG5I
4GK4I01G5OVaevWGHM2cgrbxk1GLa7k2cL71G5bxhPk2PsPk2aRVKcNs2a2LNs2bg6NsaYD3c52aYD2IOa2LNs1WgG5aRVKcNs
3a2LNs3IOa2LNs2G1Gv3IP3HU3J53I93II3IM3IG.00F993IN3J23JV3J33Jc3JI3HI3Ia3HM3J63H83Gy3In3He3JJ3H73Kc3
OB3Ok3Xd3IH3M83J93Ut3H93H23H63IA3JZ3HH3Gs3GC3YH3aNIIH4H94H2.00FBE1MJLxIP4a5qaTcNs1b2xG5GaaIn3HFaIn
3b2ucnH3cXxaf81GWbV8MU2aXzaYP2cKrbdn2aXzaYPaYCaON2aWgGy2Q9MU4a2na554a7ia554a5qa55.00FCE1G5a3Pa9la3
Pa6p4a7i1GLb1QaC0LsOUaBU2c7ARALsOUaBU2a2nQI2GYaJYaYSRAOUaTFH72XQaJYaYSRAOUaZEH70a3aa4HG50a2Ba4HG50
a3aa4HG5G0H00a2Ba4HG5G0H00aDEGLbxmaTEPk2cqCaTEPk.010000a2WG1Gv2IP2HU2J52I92II2IM2IG2Jw2IN2cEa2J22J
V2J32Jc2JI2HI2Ia2HM2J62H82Gy2In2He2JJ2H72H92H22H62IH2HH2Gs2Ks2GC2QEGC2GK2I02GB2IE2GH2UCGH2GD2I71HG
G5ZNHh3Hh3GK3I03GB3IE3GH3Hz3UCI04GD3GHG91G5J12GMGG2Jy2Jb2auD1LfG5HfH94H24IH4Gs1G1VkHH1HKHg2GF2GE2G
N2GT2GX2Gg2Go2Gh2Gt1G5ImLY2LY1GWbzK2b832arc2be11G1IA2JZ2IhGc3Jg3Gj3K11HGG5IhGc4Jg4Gj4K11G1UCI93Jw3
Tf3XE1LfG5UCHfH85H75H61G1aBsRjIA1HGG5aBsRjRU1HxGLaBsRjbhj5MBQA1G1a4pWRRjIa5Yx1HGG5a4pWRRjRU6Ln1G5a
4pWRRjZR5R35S45Uk5R41G1aMPWRRjJI5aEU5bey1HGG5bdpRjGK3aQRJf4GB4JP1G1QEGv3IP3HU3II3J93IN3HM3H83In3JW
3He3Ia3Gs1LfG5QEHfIH1HGG5QEHh4GH5G94GIHd1G5QER33S43R43a4V3bL8R34S44bXMHx1G1aYgaAaJW1G5aYgaAaR41QEH
KHg3GF3GE3GN3GT3GX3Gg3Go3Gh3Gt1G5W4ZR3S41HGG5a5AGC4Hz1GWQEGF3L70XpG4G1KA3a0A3Tt3a0j3J43a4m3Zr3a4J3
Il3W13a293MD3YY3IU3a2x3a523WS3WW3Ue3TV3a333a1r3a1H3Yy3Kb3a0R3Ns3Y43a0V3a0N3a4t3a1j3a1P3JX3Xw3LG3Vm
3a1W.010C73X2.010CD3Uv.010D01G1KA2a0A2Tt2a0j2J42a4m2Zr2a4J2Il2W12a292MD2YY2IU2a2x2a522WS2WW2Ue2TV2
a332a1r2a1H2Yy2Kb2a0R2Ns2Y42a0V2a0N2a4t2a1j2a1P2JX2Xw2LG2Vm2a1W2Q12X22aMe2HqTt2K81YqKT0KYG1XpYY0Xp
G1Uv2QkG52aRBG50QjaKHSj2a472St2TS2a4A2T92Sp2T72a482TG2a492Rg2RM2a462SJ2Si2TO2T52Sb2aUt2aCV2aA32cD2
2ac12aYI2aaT2a3V2aQO2a9S2a8M2aWm2cNY2aAt2a342aWo2aAs2cNc2cNe2cNb2aAr2aWk2aWp2aWn2a8O2aQP2aCB2aZn2a
CD2aZo2aZm2aCC2cgC2cgD2cg72aCA2aZk2cg92aZp2cgB2aZl2b4u2b4w2b3v2b3x2aAc2aPh2boS2boK2boN2boP2boL2aCU
2boH2boG2boR2boM2aEO2b5T2b4t2b4v2b3u2b3w2b4h2b4g2b4s2b3t2aWe2a8N2aaS2aEN2bu92aA22a2d2a2e2ac32RX1aQ
CRX2GC2KF2H92Zl2Xg2GH2aEM2Nn2GD2IH2aE02Jf2KL2GB2aE52LG2M62Ju2RU2Kl2GK2afH2afI2d6Y2aeE2bXe2bXf2bXd2
d7E2d7F2cHi2cHh2cHo2cHj2cHl2aeV2aeW2d7u2d7t2aeU2csu2csv2csw2csz2csy2d8E2d8H2d8G2aeb2aea2d8J2aeZ2bY
J2bYH2d7Z2bmq2bmy2bmv2bmx2bmt2bmr2aI02atd2atf2ate2ci42afG2d6Z2d7G2cHm2cHn1a8ISj2a472a8Z2St2a2d2a2e
2TS2T92a3W2a3X2a3Y2a3Z2aBW2aBV2a3V2Sp2T72a342TG2a492Rg2RM2SJ2Si2TO2T52Sb2bu72bu82aUt2aA32aA22aUu2c
D42ac12ac32aYH2aYI2aBX2cU32aaT2cTv2cTw2aYK2cTx2aYF2cU12aYJ2aYG2aYM2aTa2c6e2a9S2a9T2c6g2aTb2c6Z2c6b
2a8M2cNZ2aWn2aWl2a8O2aCB2aCD2aZo2aCC2aAc2aPh2boQ2aCU2boJ2aEO2aeQ2aeP2aWe2a8N2biv2bix2biu2biw2aEN2b
u52bu62bu22bu42bu32aCV0a0zNMGs2OS2Kq2Rc2a1U2JX2L82bkd2H62LV2Mw2YJ2a2A2O22ML2a972Re2biW2biU2aP12biT
2biS2biV2aP22H72Jm2Kh2a992a9N2KX2Lu2a2U2clR2clX2clV2clS2clU2clT2clW2clY2H22Lx2NI2Z12Z22N12L32aYh2H
H2MF2Lm2a3g2UP2Ly2LM2aCp2IA2OX2Wb2aZG2a3o2K62QF2aC52MN2Z02Yz2aBH2cQS2a3H2a3I2cQs2cRL.0124A2aXm2cRM
2aXl2aXk.012502cQV2cQd2cQa2cQW2cQZ2cQY2cQb.012582cQe.0125A2cQi2cQf2cQh2cQg.012602He2MU2Nq2a062V22N
p2PJ2aJg2Is2Uq2S62adR2TX2Nm2R72d2p2HI2LO2N52Ua2Wl2Jx2GO2aDj2II2a6L2a0U2a5r2aK02RI2PN2a6Q2OD2d5x2OE
2d5X2d5b2Wz2aeA2d5q2d61.0128A2d652d622d642d63.012902H82KK2KD2WG2a9t2KZ2JY2a2l2IN2aAK2OV2aVS2aVT2aA
I2Rs2cH92KoGC3GB3GK3Hh3JP3GH3GD3IH2Gv2MJ2MC2a1m2a8S2MB2LJ2buT2a8i.012B22a242a222aR62a23.012B82a8j2
bvr2bvp2bvm2bvo2bvn2bvq.012C02bvs.012C22bvw2bvt2bvv2bvu.012C82IH2QM2M62Zf2a4o2LG2Ld2d4l2aWdGC3GB3G
K3Hh3JP3GH3GD.012D82J92Pu2RC2aen2Zq2M72Pt2dAl2M82aEb2aEY2d9l2a532No2aEa2dA82H92Ju2Kl2X02X12Nn2KL2d
7w2HM2NT2MW2aKv2VI2Lp2MI2bVg2J32aLN2aLM2aLF2bOB2aLJ2a6Y2bOZ2IG2Tz2Sf2aPx2Vy2PX2Q52aQE2HU2NW2Ls2Xl2
Xn2Qi2Om2bfT2aOb.013122aOe2bgY2aOd2aOc.013182Vh2aO92aO62beA2beE2a7Y2aO72beY2Ia2aDA2Uj2ZO2ZP2Jp2Nl2
aDC2IM2a0T2LS2aK52a0Q2LR2RL2b5I2In2cNJ2LL2aWc2cN72aAo2QA2cNM2Kc2a4e2Um2crG2acb2Oc2a4d2crT2csg2cso2
csk2csh2csj2csi2csm2csn2JW2RZ2Q12a132Tn2PS2PU2aNi2Gy2P02JR2a2v2Ru2JB2N02Yx2cVy2a9j2bcB.0135D1JiXoG
6HGO3GL2HGO3GL2XoGL1LYGL1d4s1IzIC1IZ1Pl1KI1cP0KI1KkGL1YqKT1HKGF2GE2GN2GT2GX2Gg2Go2Gh2Gt1ITHs2Ja2M2
2Mo2KB2NJ2K52Nv2Jn2Gr2HsH5.013801NMa3ja2U2a2V2aU62a9i2a3jaJg2aJi2aJh2b1x2a3jaNi2aNl2aNk2bc92a3jYx2
a3F2aXU2aBG1aDRGLd7j3bP53aYN3J0aYN3bPl3bsh3b4q3bir3bP63bvW.013A00aKCG1GC2GH2GK2GD2GB2HT2HU2Gv2Qi2L
s2Om2NW2aOa2Gs2JX2Kq2L82OS2a1Z2H62O22Mw2ML2LV2aS42H72KX2Kh2Lu2Jm2H82a7s2a9m2KZ2KD2JY2KK2aAG2aXe2aX
f2aXg2aBK2aBL2aXj2HH2Ge2Ly2Lm2LM2MF2aCo2HM2HI2Lp2Jx2MW2N52MI2NT2aMB2a0i2aDK2aDL2aDN2aDO2aDP2acE2Kc
2Oc2Um2a4d2a4e2acf2IH2LG2M62Ld2QM2ae92H92Nn2Kl2KL2Ju2aeg2YV.013F81G2G1Nn3Kl3KL3Ju3aeg3YV.014000a5w
aCsPW2GH2aHH2GK2I02GD2J82PrJ82PwJP3GK2GC2Hh2LG2HiLG2M62HiM62ady2Hiady2Ld2HiLd2Zk2HiZk2QrZk2IH2HiIH
2Zf2HiZf2QrZf2Hz2PrHy2KoIC2GIHY3IL3KGGqHL3JUGqHL3G8GqHL3HL3GJHY4J0GdaCi3GbGM3J0HEGV3Gm3GpK72J42Il2
IU2KA2JB2cKi2JR2Yt2N02Yw2PrYw2Pwa1U3Kq2Gy2a2v2aBG2HiaBG2a3F2Hia3F2aXV2HiaXV2WR2HiWR2aXW2HiaXW2Yx2H
iYx2aBF2HiaBF2PraBF2Ho2HiHo2PwHV2Jx2cmR2N52coz2GO2Wp2PrWp2PwVI3MW2HI2Ua2ZW2HiZW2acz2Hiacz2ad02Hiad
02GE2HiGE2ad32Hiad32aDj2HiaDj2aDk2HiaDk2QraDk2HS2ZT2acm2aDg2J22MB2brg2MC2btj2LJ2YF2PrYF2Gv2a1m2a23
2Hia232a242Hia242aR72HiaR72aR82HiaR82aR92HiaR92a8i2Hia8i2a222Hia222Qra222HR2a8h2chLa8T3bti3buY3aQL
2RI2b2Z2a0U2b5X2PN2a6G2Pra6G2II2a5r2aKn2HiaKn2a6S2Hia6S2aKo2HiaKo2aKp2HiaKp2aKq2HiaKq2a6Q2Hia6Q2a6
R2Hia6R2Qra6R2Hj2RxTN2KX2c3J2Kh2c6j2Lu2a9Z2Pra9Z2H72a992a9i2Hia9i2a2V2Hia2V2aU72HiaU72aU82HiaU82aU
92HiaU92a2U2Hia2U2a9h2Hia9h2Qra9h2HB2HiHB2c6J2aIDHB2RxHB2KZ2c9x2KD2aUv2JY2aA92PraA92H82WG2aVM2HiaV
M2a2l2Hia2l2aAH2HiaAH2QraAH2H12PwMc2cCl2O22bwK2Mw2byg2ML2W92PrW92H62YJ2aS62HiaS62aS72HiaS72aS82Hia
S82aS92HiaS92aSA2HiaSA2a972Hia972aS52HiaS52Gj2HiGj2HfGj2Ly2cX72Lm2ZI2LM2ZJ2PrZJ2HH2a3g2aav2Hiaav2a
ax2Hiaax2aay2Hiaay2aaz2Hiaaz2ab02Hiab02aCp2HiaCp2aCq2HiaCq2QraCq2Ge2aIDGe2aat2a5dGe2c7ncgR2QrcgX3c
W53chv3cjg3cgY3cYD2K62Wb2a3r2QF2aC12IA2aZG2Wc2HiWc2aZY2HiaZY2aZZ2HiaZZ2aZa2HiaZa2aZb2HiaZb2aC52Hia
C52aZX2HiaZX2UQ2Nn2d6b2Kl2d7f2KL2a4x2Pra4x2H92X02aeh2Hiaeh2aei2Hiaei2aej2Hiaej2aek2Hiaek2ael2Hiael
2aEU2HiaEU2aEV2HiaEV2QraEV2Hd2b09Hd2HiHd2RxKl2N12aXnN12HiO22cSE2NI2a3d2L32aYY2HiML2H22Z12HiH62aYi2
HiaYi2Gc2HiGc2HfGc2PS2bZo2Q12baf2PU2a7L2JW2a132aNj2HiaNj2IK2Jp2a9kJp2Uj2a9kUj2aD42a9kaD42Nl2aD72Ia
2ZO2aDD2HiaDD2TN2ack2acl2a4f2JV2crX2csY2csZ2csa2csW2cGTJX3Kq3aP53L83Xy3Gs3Rc3HV2cGUHV2bj82cQJ2Yz2a
Xa2a3I2aXc2MN2aBH2Ie2acB2acC2acD2aDM2HiN13NI3L33H22cBh2a2c2cCH2UE2cCW2I92a2b2Mc2cER2RxK63Wb3QF3IA2
ae3Jp3Uj3Nl3Ia3TN2aRg2byQ2aRh2byR2Sk2aRf2a8x2cnuJp3Uj3aD43Nl3aD73Ia3ZO3TN2as0Hu2a5dGH3GK3GD3GC3LG3
M63Ld3IH3KZ3KD3JY3H83MB3MC3LJ3Gv2RxJX3Kq3L83Gs2Pwbex3aOE3Mr3bek3bet3J53Lx3L33N13Z23NI3H23QM3Ld3LG3
a4o3M63IH3bmE3bmD3a7x3bmB3bmC3bm93aDA3Nl3Jp3ZP3Uj3Ia3crj3aDg3ZT3crW3acm3J23P03N03JB3Ru3JR3Gy3Ho3NW
3Om3Qi3Xn3Ls3HU3btJ3U23a8V3bt83a1s3IP3buE3buD3buA3buB3buC3a8a3a1u3KK3JY3KZ3a9t3KD3H83Jm3Lu3KX3a9N3
Kh3H73Ju3KL3Nn3X13Kl3H93Tz2RxTz2PwQ53PX3Vy3Sf2RxSf2PwIG3aQ73aQ63bqO3bqP3aQ43Y53LV3ML3O23a2A3Mw3H63
bQY3bQX3aLr3bQT3bQW3a0i3byS3aRh3byO3byP3aRg3Sk3cpP3acD3acB3cpN3acC3aDM3aDP3aDO3aDL3cpM3aDN3aDK3Pu3
Pt3M73Zq3RC3J93Hl3GYHl3aMJ3aMI3SS3aME3aMG3Ok3MF3LM3Ly3UP3Lm3HH3OX3QF3K63a3o3Wb3IA3UQ3a4e3a4d3Oc3ac
b3Um3Kc3a0T3RL3LR3a0Q3LS3IM3crh3crg3crd3cre3crf3crc2LSG52IzIC2aXY2cBj2cEU2cEV2cEW2cEX2cES2cET2ae3c
oe3cof3cog3coh3coi3aDC3aDD3GITN2a5dHy0cJTM1GL1G1azn2bzx2baK2cXC2cDI2cto2bNj2cpB2b7q2b3n2c8N2bfj2cB
q2cjB2cVV2arw2aVo2Uo2bWh2bpV2bWg2Hn2cu42boV2bWi2cMQ1a14GL1I4a14GL.016A00cVcG1baObaRPSIK2HT2cujUoGB
2aeY2Hd2Hy2cobcocTQ2SU2at8GC2aVsGD2ZsGC2aHU2bzWGD2cexGD2GD2Jf2IU2cSPaXscT7Gc2bsH2b3r2bsGHR2HO2PQ2b
dqbggHO2L02d5Ba4sHy2bhDHV2bh9HV2bzUHV2ceuHV2cAIcGkcAHH12cewH12bUy2bpfVvbpjGK2GH2bq7I62be42bzTKF2ce
sGC2bpnbXg2cMicMZHo2asKbXi2chNGe2cfsbzXGe2ceyGe2Hj2Hl2cpJaDJcsfHS2cezHS2Hb2azwazub0aHu2cetHu2bUz2c
Js2bWyQdGH2c3zMDHB2bzVHB2cevHB2bxdbwZbzOGj2bUx2bp72a852bNbbNXHb2cKDbYBGD2VR2bpX2bLo2b2k2b3i2cil2bz
Y2cf02bnQ2Ie2Ht1IBJM1OtJM1JDJM1atrGW1csHGW1azpGW1G1HR2UQ2J82bblb3FaVs4Vv4Qd4Zs4aHU.017000cmZG1GC2G
K2GB2Gv2HU2I92HI2HM2H82Gy2He2H72H92H22H62IH2HH2Gs1HGG5GK3GB1G5Jb2aW8.0171F1G1MQH20bhYG1GC2GK2GB2Gv
2HU2I92HI2HM2H82Gy2He2H72H92H22H62IH2HH2Gs1HGG5GK3GB1G5aW80cNBIBJM1GJJM.017400b1YG1GC2GK2GB2Gv2HU2
I92HI2HM2H82Gy2He2H72H92H22H62IH2HH2Gs1HGG5GK3GB.017600cmaG1GC2GK2GB2Gv2HU2I92HI2HM2H82Gy2He2H72H9
.0176E2H62IH2HH.017721HGG5GK3GB.017800aQhG1Gv2IP2LJ2U22UE2II2IM2PN2RL2Rs2HM2JV2MI2a4f2cEZ2HI2Ia2GO
2Nl2JY2He2In2N02QA2Lu2KL2L32ML2R72IA2aCX2HH2Gs2H62MN1SdHGcQO3aBH3Yz3aXa3Z03cRA3aBL3cRJ3aYj3cW43a98
3c0L3a3H3aXY3aXcaDmGF5GE3cQQ1HGbp9X93Hh2G5Hh3GK3I03Hd3aEW3GB3IE3Wq3Jf3H93ND3GH3KF3Hz3J83I71G5cDB2c
So2d8Y2c8o2cqX2ayr2cUf2cpb2brs2ars2cXXcXc2cy42b7n2az42bt32ayv2b2oYtbvb2aRZWp2azy2cNEaU12bue1XVGWcT
r1G5auw2auh.017E01HKHg2GF2GE2GN2GT2GX2Gg2Go2Gh2Gt.017F01GWaRZaufchC4a9e4Yt4a5Z4a5o4aB44aB74aB84aB5
4aB6.018000aToQV1ST1IZ1IzIC1KI1GTH01aDQOYPW1aZcNMb0xSo1YNIZ2IzIC1cDK1a7NZcaBoGF4GE4GN1HGKT1a7NZcaB
oGT1HKHg2GF2GE2GN2GT2GX2Gg2Go2Gh2Gt.018201G1GC2GH2GK2GD2GB2Jf2Ln2JP2H82PD2He2Gy2MN2HU2H72H62HH2IA2
HI2HM2IM2IG2H92H22IH2JW2Gv2IP2Kc2J92Rc2dAa2Sk2aEY2LS2aDQHrHGG53GH3GK3GD3GB3Jf3Ln3PD3He3Gy3MN3HU3H7
3HI3HM3IM3IG3Kc3H93IH3Gv3Xl3Rc3bqF3cCy3Ok2aZcGH3GK3a8F3Ln3GB3PD3Gv3HU3Gs3Gy3IA3HI3HM3IG3JW3Xl3Rc3K
c3J93Z13IM3M82YNGK3Gv3H23JW3M82IMG0GEH0.018802TcTsJ1GF4JyGF4bNn4adA4IOadA4aIY4GNaIY4GC4GK4Gv4I94II
4J24JV4J34JI4HI4HM4Gy4In4JZ4M84J94PC2aDQTcTsHI5M82YNTcTsJ55I95II5Jw5J25Jc5HI5J65JZ5aKs5M85J92TcTsG
qGB5H92YNTcTsJJ2TcTsbNa2YNTcTsSk.018B00a5waCsaAY2PE2aHJ2Zg2cOs2cM92cQ42cn82a8R2bvh2aT82cF02cAN2bxf
2chP2aYy2aZS2ceP2cfW2d852aeM2aXy2aVN2YkaVN2aVO2YkaVO2aVP2YkaVP2aVQ2YkaVQ2cVt2cVu2cVv2cVw2cVx2aYh2Y
kHo3HS3HR3Hj3HB3H13Ge3UQ2aMPHy2a4pHy2GIG2HL3LCGM2aXncVs2HiW93YJ2cod2aDC2crb2crZ2aDf2cpQ2cpO2RxWc3a
C13Xy2PwbgZ3aLUXn3Xl3aOb2Rxbr92PwaQE2aIoaLUGj4Gc2Pwa6cGe.019000bymcyTG11G1Gv2IP2HU2J52I92II2IM2IG2
Jw2aeH2HI2Ia2HM2J62H82Gy2In2He2JJ2H72H92H22H62IH2IA2JZ2HH2Gs2bgd2aDU.019201HGG5GC3GK3GB3JP3Hz3J83I
73GH3GD1WgG1H93H23IH.019301G2G1Gv3I93J13HI3H83Gy3H73H23H61G5c8Q2bsg2cX5.019402W9.019441L7GL1KkGL1H
KHg2GF2GE2GN2GT2GX2Gg2Go2Gh2Gt0S2O2G1Gv3OD3I93Kc3HH3H93HI3Ia3H63Gy3In3H73JW3Is3Gs3MN3IP3OB3H83GC3G
K3JP3Qd3GB3J83GD3Ln3GH3aIF3Hz.019703R33S43Uk3R43a4V.019800WKS2aS2G1I2MN4HXMN4I2Gv5OD5I94HXGv5OD5I9
4I2Kc5HH5H94HXKc5HH5H94I2HI5Ia5H84HXHI5Ia5H84I2Gy5In5H74HXGy5In5H74I2JW5Is5H64HXJW5Is5H64I2Gs5HM5H
e4HXGs5HM5He4I2aR55aeB4HXaR55aeB4I2aCj4HXaCj.019B03HGG5HGcf25Hh5I05GB5IE5GH5KF5GD5Yh5Ln5PE5aHJ5adQ
5aAY5aVa5cu05a8F3G1GIHT5Mc5H15HB5HR5Hb5Hu3HxYP4YQ.019D03HKHg4GF4GE4GN4GT4GX4Gg4Go4Gh4Gt3a4OHKGF.01
9DE3G5aRD4bwY0aQhGWcM22a9eO02YtO02a5ZO02a5oO02aB4O02aB7O02aB8O02aB5O02aB6O02a6VO02aL2O02aL3O02aL0O
02aL1O02aL4O02csC2a9eO82YtO82a5ZO82a5oO82aB4O82aB7O82aB8O82aB5O82aB6O82a6VO82aL2O82aL3O82aL0O82aL1
O82aL4O80b1XG1Gv2HU2I92aUl2Gy2He2H72aTz2HI2HM2H82aAA2II2IG2IN2cGj2H92H22H62Is2HH2GC2Gs1HGG5GK3GB3G
H3GD3KF.01A1E1cL41JsGRLY0S2a4OG1I2Gv4IP4a8j3HXGv4a8j4IP3I93I2II4IM3HXII4HH4IM3IN3cSa3I2aBO3HM3HXaB
O3aXx3I2HI4Ia3HXHI4Ia3H83He3I2Gy4In4JW3HXGy4JW4In3H73HXH93I2H93H23cVT3H63aS23IH3I2IA4JZ4HH4Gs3Ks3G
C3HXGs3GK3I03GB3IE3JP3J83aRD3VkHH2LfG5HfH25H64H6cmoa262G5Osa1oa262LfG5GII94HXGy4I2aBOHnHXGy4H74He4
HH.01A602G5cXJ2HGG5GC4OsaBh4Hh4ZNHh4GK4I04Ln4aDu4GB4IE4GD4YhGG4aAY4GH4KF4J84Hz4a4OHz4YhG92G5Osa1o3
ZR3R33btNS44Uk4R43H2bh63OsaBf3btObs5.01A7F2JiRPGM2bkpHKHg4GF4GE4GN4GT4GX4Gg4Go4Gh4Gt.01A902a4OHKHg
4GF4GE4GN4GT4GX4Gg4Go4Gh4Gt.01AA02G5d4R3d4S3cXs3bsi3blh3bQh3I4IWaXx3Osd6v3brh3bri3cXk3cXl3bhW3b2a.
01AB00Jia0kHvJh1bPc1Vs1HNG71JEGM1d5KGG1WyI8GG1HmGLGG1GJHmGLGG1HFa0MGVGG1aafa0MGVGG1aAgG91GJaAgG91a
AgGG2Lj1IxG2G1HyGG4HqHyGG1GAJQG9GA1G8JQG9G81GAJQGGGA1G8JQGGG81Gxb16G91ITG5G91IOGJaI1G91GmG5G91GJGm
G5G94GG1JEHYJh1IxG2G1MtHO5Gc5HS.01B000ayiG5adEcTp3Nt2b3j2aaq2b0R1G1as23Pn2boY3Pn2cuC3Pn2H2a3T4Pn2H
6aRa4Pn2bX42arv2cJW3Pn2Gv3Sm2HU3bff2I92II3bwT2IG3bq62IN2HIbxZ3Q8Sm2HMQ8asU4Sm2H8cST2HI3cn52HM3c3O2
H82Gy3bs12He3bsf2H72H92H22H62IH2HHcX93cXg32Gs1G5cTN1HGG5Pn3adE4aYw3aam4bod3H2a3T5Pn3H6aRa5Pn3abS4a
3T4Pn4a3TPn3aWT4Pn1ZvZv1G1KWTB2btHTB2cslTB2QcTB2NmTB2a50TB2auTTB2MQaQA.01B501HKHg2GF2GE2GN2GT2GX2G
g2Go2Gh2Gt1aWA1aW61ae01b37cLD2cfu2cLh1cL91OuGWaLv3bOx3aMA3a6T4aaq3bQ13bNY3bPD3bNi3a6Tbdr3JicnT4bXR
4aQV4aQU4a8H4aQVG0a8H4aQUG0a8H4azr4bfb3cU7HmVQ5a0a4Jzacp5cme3bxrHmcLJ5cPj4JzcO05cOD4HmaAu1aWAaRN1a
W6aRN.01B800aanG5cLX2cLN2cLQ1G1GC2GK2GB2KF2GD2GH2RU2Gv2MN2HU2I92II2IG2J92IN2HI2HM2H82Gy2JW2Is2He2H
72H92H22H62IH2HH2OD2Gs1LfG5cLB3cLV3cLY1HGG5cLK3cLZ3cLE3cLR3cLA3cLI1G5cL82Jb1LfG5cLoH74IH1G1IP2ckh1
HKHg2GF2GE2GN2GT2GX2Gg2Go2Gh2Gt1NR1G1cTY2aRd2JJ2GIHR3HB0az3G1GC2QGGC2Gs2QGGs2a9DGs2He2a8PHe2Gy2QGG
y2H82a9DH82IH2QGIH2aW4IH2HU2QGHU2IG2HM2H22QGH22H72QGH72aaCHI2aV7HI2HH2QGHH2a9DHH2H92QGH92I92H62QGH
62IN2II2WJ2YR2GK2GB1G5cph1HGG5GH3aW4GH3JP3GK3a8PGK3GD3a8PGD3GB4JjQGHH1LfG5Mc3HV1aW91cLS.01BFC1GWa5
cH8c5U3cNk3bqu3aW90byBG1Gv2buG2IP2HU2bfK2I92II2IM2IG2IN2HI2Ia2HM2H82Gy2a362In2JW2bb02He2b0b2H72aTh
2Kc2OB2Ok2H92H22H62Gs2aPB2Is2HH2IA2IH2GC1WgG1H93H21HGG5Hh3GK3GD3J83GB3IE3GH1LfG5HR3HB3Gj3H13Ho3Gc3
HS3cGs3a1o1G5cSU2LK.01C3B1JMabP2aAJcojabP2aK32crOaK331HKHg2GF2GE2GN2GT2GX2Gg2Go2Gh2Gt.01C4D1G1J22J
V2J30aVgb4iHKHg3GF3GE3GN3GT3GX3Gg3Go3Gh3Gt2G1H63LQ3Zw3PD3RE3YJ3apW3apV3apX3apc3Mw3Vv3a813bpT3a1e3L
V3a4i3Mg3adK3adQ3O23a0w3bWn3J43a0x3ML3cKH3cJ53aVv3Yi2Jmcrk2bdJaco2c8Iaco2cTA2cMv2arm2JMaU23GJaU20O
LG2G1QuNm3bzZLp3WIGD3ZhQ03ZNJx3coTJx3ZNQkG54S83cuIWr.01C900Xpc8DG4G1KA4a0A4Tt4a0j4J44a4m4Zr4a4J4Il
4W14a294MD4YY4IU4a2x4a524WS4WW4Ue4TV4a334a1r4a1H4Yy4Kb4a0R4Ns4Y44a0V4a0N4a4t4a1j4a1P4JX4Xw4LG4Vm4a
1W4Q14X24aMe4HqTt4K8.01CBD4Uv4QkG54aRBG50aanJMa5cckQ3cLO3cPs3aJn3aRda3i3Gva3i3HMa3i3Hea3i.01CD00Zd
HxbsA2ceI2cP11G5cD92aEIaTYQz1HxaEIariSdQz3SdQz3a8QSdQz2NtGG2aEIa8QSdQzcY42GJQz2JEQz2a8QX72GMGG2GEH
0GG2GNH0GG2cUCaQQSdQz2auWSdQz1G5JyQz3a4j2I4Jya4j2JyX72I4JyX72Jya4jG0Io3X7G0Io2J1aHm3ayd3cwQ4G0Io2c
pH2biQHrJ12HrJ12cVKHrJ12J1ctpc8O2aI22IWaI21HxNtG91G5Vz2Ws2auY1HxHLG92GJHLG91G5GJJ1aHm.01D000IxG1G2
G4GC4KF1G2G1HqKF1G1G2G4QTHu4Hj4Hb4SU4GH1G2G1HqHmGH4GK1G1G2G4I64HR4GjG0GV4HB4I4H14GD4HmGD1G2G1RyGD4
HmGD4GDG0GV3HqJf1G1G2G4Sz1G2G1JUGqGD3KGGqGD1G1G2G4Ho4I4Gc4HqGc4HS4GB1G2G1RyGB4bPdGB4HqHB1G1G2G4HT4
Hy4Hl4RW2R8bxWchg2K80LIG1G2G4Lr4OT4JR4L24NH0OLG1G2G4Lq0KYG1G4GC3KF3Hu3QTHu3Hb3GH3I4GH3HO3HV3GK3I63
HR3Gj3HB3H13I4H13GD3Sz3Ho3Gc3HS3GB3Hy2G2GC3HqGC3K93HqKF3Hu3Hb3GH3Qw3HmGH3HqHmGH3HO3HqGK3HR3HB3PQ3G
D3HmGD3JUGqGD3KGGqGD3Ho3HS3GB3RyGB3HqHB3HT3K83MT3LILr3MH3LILL3LS0IxUYG2G1GK4Gc4GB4HT0LIUYG2G1MT4Lr
4L24LL4LS0IxG2G1Ln3HuG0GbHJ3HbG0GbHJ3IKG0GbHJ3HBG0GbHJ3H1G0GbHJ3HoG0GbHJ3GcG0GbHJ5ToG6GbHJ3GeG0GbH
J3HSG0GbHJ3HlG0GbHJ3HqHO0KYG1OLJ40IxG2G1MtHO3TNG0cjO2G4G1GKG0GV2G1KRG0GV3HoG0GV2G4G1GBG0GV2G1KvG0G
V3HuG0KjGU3HbG0KjGU3IKG0KjGU3HOG0KjGU3HRG0KjGU3GjG0KjGU3HBG0KjGU3H1G0KjGU3HoG0KjGU3GcG0KjGU3GeG0Kj
GU3MnG0KjGU3HTG0KjGU3HtG0KjGU3HlG0KjGU3GCG0JSGU3K9G0JSGU3HbG0GUG6Io3GHG0JSGU3HmGHG0JSGU3I4HmGHG0JS
GU3QwG0JSGU3GKG0JSGU3HmGDG0JSGU3MnG0JSGU3GBG0JSGU3RWG0JSGU0KYG1G2HqK93Hj4G0Lo3SU3I4HmGH3IK3OPI6G0G
V3LXHO3HqHV3GKG0GV3KR3G4GK5G0GV3I6G0RO3GjG0JSGU5KjGU3G4Gj3HBG0GU3HqHBG0HrNG3H1G0GAGU5JSGU3G4H13QTG
D3LL3GeG0GU3Mn3HSG0KjGU3GBGl3Kv3G4GB3HTG0GU3HqHT3Hl4G0JSGU5Lo3RW3LN0JiJlILJh2HYJh1a41GG1aCnGL1c3L1
bfz1c3N1arC1bfy1arB1IxG2G1GcGG1b1F1c3M1GJHvG91O5G91TaGG1VvGG1UoG91WtG91IxG2G1a17HmGCG94KF4a004Uz4H
jKe4MtHb4SU4HO2G1G2G4HO2G2G1HR4Gj2G1G2G4Gj5HB2G2G1H12G1G2G4H15Gc2G2G1GcZB4Ge4HrGe4Hl4K94Hu4MT4Qw4I
K4GjG0GJGbHJ4GDG0HFa0MGV4Ho4Mn4GBG0HFa0MGV4Hy4GCG0I54GDG0I54GBG0I51GfK7G91W2G9G83GA1GMG9GA1ZhIOV7G
G1GMGGGA1bOqGL1GJIOIjGG1NOHDGOGG1GAIFG91G8IFG6GpIFGG0IxG4G1GCG0HLGG1G2G1GCG0HLGG1G4G1HuG0GMG91G2G1
HuG0GMG91G4G1HuG0GMGG1G2G1HuG0GMGG1G4G1HuG0I8GG1G2G1HuG0I8GG1G4G1HjG0KeG6HY1G2G1HjG0KeG6HY1G4G1HbG
0GMG91G2G1HbG0GMG91G4G1HbG0GMGG1G2G1HbG0GMGG1G4G1HbG0I8GG1G2G1HbG0I8GG1G4G1HbG0Ke1G2G1HbG0Ke1G4G1H
bG0HvGG1G2G1HbG0HvGG1G4G1GHG0IQG6IL1G2G1GHG0IQG6IL1G4G1GHG0IQG6HY1G2G1GHG0IQG6HY1G4G1GHG0HvGG1G2G1
GHG0HvGG1G4G1GHG0HJGG1G2G1GHG0HJGG1G4G1GHG0KeG6Ij1G2G1GHG0KeG6Ij1G4G1IKG0GMG91G2G1IKG0GMG91G4G1HOG
0IQ1G2G1HOG0IQ1G4G1HVG0GMG91G2G1HVG0GMG91G4G1HVG0GMGG1G2G1HVG0GMGG1G4G1HVG0I51G2G1HVG0I51G4G1HVG0K
e1G2G1HVG0Ke1G4G1HVG0IjGG1G2G1HVG0IjGG1G4G1GKG0HJGG1G2G1GKG0HJGG1G4G1GKG0I5G6HY1G2G1GKG0I5G6HY1G4G
1HRG0HY1G2G1HRG0HY1G4G1HRG0GMGG1G2G1HRG0GMGG1G4G1HRG0I8GG1G2G1HRG0I8GG1G4G1GjG0GMGG1G2G1GjG0GMGG1G
4G1GjG0GMGGG6IQ1G2G1GjG0GMGGG6IQ1G4G1GjG0I8GG1G2G1GjG0I8GG1G4G1GjG0HvGG1G2G1GjG0HvGG1G4G1HBG0HY1G2
G1HBG0HY1G4G1HBG0GMG91G2G1HBG0GMG91G4G1HBG0GMGG1G2G1HBG0GMGG1G4G1H1G0GMG91G2G1H1G0GMG91G4G1H1G0GMG
G1G2G1H1G0GMGG1G4G1H1G0I8GG1G2G1H1G0I8GG1G4G1H1G0HvGG1G2G1H1G0HvGG1G4G1GDG0HJG6HY1G2G1GDG0HJG6HY1G
4G1GDG0HJG6I51G2G1GDG0HJG6I51G4G1GDG0IQG6IL1G2G1GDG0IQG6IL1G4G1GDG0IQG6HY1G2G1GDG0IQG6HY1G4G1HoG0H
Y1G2G1HoG0HY1G4G1HoG0GMG91G2G1HoG0GMG91G4G1GcG0GMG91G2G1GcG0GMG91G4G1GcG0GMGG1G2G1GcG0GMGG1G4G1GcG
0GMGGG6IQ1G2G1GcG0GMGGG6IQ1G4G1GcG0I8GG1G2G1GcG0I8GG1G4G1GeG0GMG91G2G1GeG0GMG91G4G1GeG0GMGG1G2G1Ge
G0GMGG1G4G1GeG0HYG6GMG91G2G1GeG0HYG6GMG91G4G1GeG0JGG6GMG91G2G1GeG0JGG6GMG91G4G1GeG0GMGGG6GMG91G2G1
GeG0GMGGG6GMG91G4G1HSG0GMG91G2G1HSG0GMG91G4G1HSG0GMGG1G2G1HSG0GMGG1G4G1HSG0I8GG1G2G1HSG0I8GG1G4G1H
SG0HvGG1G2G1HSG0HvGG1G4G1GBG0I5GG1G2G1GBG0I5GG1G4G1GBG0HJGG1G2G1GBG0HJGG1G4G1GBG0HvGG1G2G1GBG0HvGG
1G4G1GBG0HJG6HY1G2G1GBG0HJG6HY1G4G1GBG0IQG6I51G2G1GBG0IQG6I51G4G1HTG0HJ1G2G1HTG0HJ1G4G1HTG0GMGG1G2
G1HTG0GMGG1G4G1HyG0IL1G2G1HyG0IL1G4G1HyG0HY1G2G1HyG0HY1G4G1HyG0I51G2G1HyG0I51G4G1HyG0GMG91G2G1HyG0
GMG91G4G1HyG0GMGG1G2G1HyG0GMGG1G4G1HtG0GMG91G2G1HtG0GMG91G4G1HtG0I51G2G1HtG0I51G4G1HdG0GMG91G2G1Hd
G0GMG91G4G1HlG0Hv1G2G1HlG0Hv1G4G1HlG0GMGG1G2G1HlG0GMGG1G4G1HlG0I8GG1G2G1HlG0I8GG3HVG0I8GG3HSG0I53H
yG0HLG93HdG0HLG93GCG0G8GqHL3HrGeG0GMG96JHGV6I2GV1G4G1WaGe1G2G1MH1G4G1GCG0GMGG1G2G1GCG0GMGG1G4G1GCG
0GUG91G2G1GCG0GUG91G4G1GCG0HvG6HY1G2G1GCG0HvG6HY1G4G1GCG0HvG6IL1G2G1GCG0HvG6IL1G4G1GCG0HvG6GUG91G2
G1GCG0HvG6GUG91G4G1GCG0HvG6HJ1G2G1GCG0HvG6HJ1G4G1GCG0HvG6GMGG1G2G1GCG0HvG6GMGG1G4G1GCG0IjG6HY1G2G1
GCG0IjG6HY1G4G1GCG0IjG6IL1G2G1GCG0IjG6IL1G4G1GCG0IjG6GUG91G2G1GCG0IjG6GUG91G4G1GCG0IjG6HJ1G2G1GCG0
IjG6HJ1G4G1GCG0IjG6GMGG1G2G1GCG0IjG6GMGG1G4G1GHG0GMGG1G2G1GHG0GMGG1G4G1GHG0GUG91G2G1GHG0GUG91G4G1G
HG0HJ1G2G1GHG0HJ1G4G1GHG0HvG6HY1G2G1GHG0HvG6HY1G4G1GHG0HvG6IL1G2G1GHG0HvG6IL1G4G1GHG0HvG6GUG91G2G1
GHG0HvG6GUG91G4G1GHG0HvG6HJ1G2G1GHG0HvG6HJ1G4G1GHG0HvG6GMGG1G2G1GHG0HvG6GMGG1G4G1GKG0GUG91G2G1GKG0
GUG91G4G1GKG0GMGG1G2G1GKG0GMGG1G4G1GDG0GMGG1G2G1GDG0GMGG1G4G1GDG0GUG91G2G1GDG0GUG91G4G1GDG0HvG6HY1
G2G1GDG0HvG6HY1G4G1GDG0HvG6IL1G2G1GDG0HvG6IL1G4G1GDG0HvG6GUG91G2G1GDG0HvG6GUG91G4G1GDG0HvG6HJ1G2G1
GDG0HvG6HJ1G4G1GDG0HvG6GMGG1G2G1GDG0HvG6GMGG1G4G1GDG0K4G6HY1G2G1GDG0K4G6HY1G4G1GDG0K4G6IL1G2G1GDG0
K4G6IL1G4G1GDG0K4G6GUG91G2G1GDG0K4G6GUG91G4G1GDG0K4G6HJ1G2G1GDG0K4G6HJ1G4G1GDG0K4G6GMGG1G2G1GDG0K4
G6GMGG1G4G1GBG0GMGG1G2G1GBG0GMGG1G4G1GBG0GUG91G2G1GBG0GUG91G4G1GBG0K4G6HY1G2G1GBG0K4G6HY1G4G1GBG0K
4G6IL1G2G1GBG0K4G6IL1G4G1GBG0K4G6GUG91G2G1GBG0K4G6GUG91G4G1GBG0K4G6HJ1G2G1GBG0K4G6HJ1G4G1GBG0K4G6G
MGG1G2G1GBG0K4G6GMGG1G4G1HdG0IL1G2G1HdG0IL1G4G1HdG0GMGG1G2G1HdG0GMGG1G4G1HdG0GUG91G2G1HdG0GUG91G4G
1HdG0HJ1G2G1HdG0HJ1G4G1a2OK11G2G1a2OK11G4G1a2OHT1G2G1a2OHT1G4G1HdG0Mx1G2G1HdG0Mx0LIG2G1K9G0I35I15I
3G6IY5I1G6IY5I3G6IX5I1G6IX5I3G6JL5I1G6JL1G4G1K9G0I35I15I3G6IY5I1G6IY5I3G6IX5I1G6IX5I3G6JL5I1G6JL1G
2G1L6G0I35I15I3G6IY5I1G6IY5I3G6IX5I1G6IX.01F181G4G1L6G0I35I15I3G6IY5I1G6IY5I3G6IX5I1G6IX.01F201G2G
1M9G0I35I15I3G6IY5I1G6IY5I3G6IX5I1G6IX5I3G6JL5I1G6JL1G4G1M9G0I35I15I3G6IY5I1G6IY5I3G6IX5I1G6IX5I3G
6JL5I1G6JL1G2G1KRG0I35I15I3G6IY5I1G6IY5I3G6IX5I1G6IX5I3G6JL5I1G6JL1G4G1KRG0I35I15I3G6IY5I1G6IY5I3G
6IX5I1G6IX5I3G6JL5I1G6JL1G2G1MzG0I35I15I3G6IY5I1G6IY5I3G6IX5I1G6IX.01F481G4G1MzG0I35I15I3G6IY5I1G6
IY5I3G6IX5I1G6IX.01F501G2G1KvG0I35I15I3G6IY5I1G6IY5I3G6IX5I1G6IX5I3G6JL5I1G6JL.01F591G4G1KvG0I1.01
F5B6G6IY.01F5D7IX.01F5F7JL1G2G1JoG0I35I15I3G6IY5I1G6IY5I3G6IX5I1G6IX5I3G6JL5I1G6JL1G4G1JoG0I35I15I
3G6IY5I1G6IY5I3G6IX5I1G6IX5I3G6JL5I1G6JL1G2G1K9G0IY5IX3L6G0IY5IX3M9G0IY5IX3KRG0IY5IX3MzG0IY5IX3KvG
0IY5IX3JoG0IY5IX.01F803K9G0I3G6Jr5I1G6Jr5I3G6IYG6Jr5I1G6IYG6Jr5I3G6IXG6Jr5I1G6IXG6Jr5I3G6JLG6Jr5I1
G6JLG6Jr1G4G1K9G0I3G6Kt5I1G6Kt5I3G6IYG6Kt5I1G6IYG6Kt5I3G6IXG6Kt5I1G6IXG6Kt5I3G6JLG6Kt5I1G6JLG6Kt1G
2G1M9G0I3G6Jr5I1G6Jr5I3G6IYG6Jr5I1G6IYG6Jr5I3G6IXG6Jr5I1G6IXG6Jr5I3G6JLG6Jr5I1G6JLG6Jr1G4G1M9G0I3G
6Kt5I1G6Kt5I3G6IYG6Kt5I1G6IYG6Kt5I3G6IXG6Kt5I1G6IXG6Kt5I3G6JLG6Kt5I1G6JLG6Kt1G2G1JoG0I3G6Jr5I1G6Jr
5I3G6IYG6Jr5I1G6IYG6Jr5I3G6IXG6Jr5I1G6IXG6Jr5I3G6JLG6Jr5I1G6JLG6Jr1G4G1JoG0I3G6Kt5I1G6Kt5I3G6IYG6K
t5I1G6IYG6Kt5I3G6IXG6Kt5I1G6IXG6Kt5I3G6JLG6Kt5I1G6JLG6Kt1G2G1K9G0Ww5IQ5IYG6Jr5Jr5IXG6Jr.01FB65JL6G
6Jr1G4G1K9G0Ww5IQ5IY5IX5Kt1a8f1Kt1I31JL1ONG6JL1G2G1M9G0IYG6Jr5Jr5IXG6Jr.01FC65JL6G6Jr1G4G1L6G0IY5I
X3M9G0IY5IX5Kt1I3G6IY3IX3JL1G2G1KRG0Ww5IQ5ONG6IY7IX.01FD65JL5ONG6JL1G4G1KRG0Ww5IQ5IY5IX.01FDD1I1G6
IY3IX3JL1G2G1KvG0Ww5IQ5ONG6IY7IX3L2G0I35I13KvG0JL5ONG6JL1G4G1KvG0Ww5IQ5IY5IX3L2G0I11ONG6IY3IX1IY.0
1FF21G2G1JoG0IYG6Jr5Jr5IXG6Jr.01FF65JL6G6Jr1G4G1MzG0IY5IX3JoG0IY5IX5Kt1IX1I1.020000J4OW0MmOW0J4M10
MmM10coVM10bbeM10cgLM10a15M10JMM10a4PM10TuM10HgZiM12cEm2Ty0YKGL0a3cGL0PW0cElPW0a15JO0J4JO0MmJO0HEG
l0GJGdI81HXI80GAIBKaGL0G8IBKaGL0IBaRyKaGL1aP4KaGL0GAGJKaGL0G8GJKaGL0GJaRyKaGL1aP4KaGL0VH0GJVH0OJ0M
3OJ0GFGMa8q0GEGMa8q0HEST0aPWOx0I8KT0YqKT0YKaMg0a3caMg0aB0aLkbbX0YKaVx0a3caVx0WIaA8M10aAlaTeG51HsH5
G50Ph0GJPh0JEPh0I4Ph1GJPh1JEPh0QY0IBMKIuKaGL1LWIuKaGL0cSyGL0GJL7GL0Y20T00adH0NSWo0QYa87Ox0auP0PWOJ
0MXNi0GAGxGuG0a3J0G8GxGuG0a3J0GJKkGL0KkL7GL0L7KkGL0ac6G5Ol0I4aWqG50GPGnOJ1GZOJ0HXJC0I4Pl0a64Gf0GEa
uOasMUp0XRMyG50ckeJO0IOadH0XkJMGL0GNGMJM0QBPh0GTGMJM0GXGMJM0GEGMJM0GTGMGL0JlJD0acT0GdGTH00HZWBM10O
CTy0a7RaHy0bpSGi1KT1Gm.020660YKa1f0a3ca1f0RYaafa1f0aB0aLka1f0aPnabLaau0aHMabLaau0aPnMPG3aZJ0aHMMPG
3aZJ0aUKHKaZI0cEiHKaZI0P7Hg1IxG2G1GK.020741GT1GX1Gg1Go1Gh1Gt1GmG51My1K0G51GAJQ1G8JQ1IxG2G1H10UYHg1
GF1GE1GN1GT1GX1Gg1Go1Gh1Gt1GmG51My1K0G51GAJQ1G8JQ.020900IxUYG2G1GC4GH4GD4Ht4Qw4HV4HR4Gj4HB4H14Ho4G
e4HS.020A00bYLG50KIG50bLVG50aNbbbkG50aRpG50c6rG50cA3G50cMkG50UNG50aEAG50WKceWG50aLvG50aN0G50aQjG50
cruG50a6sG50be5cMVG50aWaG50bgAG50aurG50blkG50b3kG50bz7cq3G50chbG50cneG50bp2UNG50cs7aRpG50cErGLG50c
3tG50cVSG50bxVG50b0WG50aa8G5.020D00JiGAIkG91G8IkG91HrGdI8Lj1J0GdI8Lj1MjG7G91OhG7G91GAG7G91G8G7G91H
LLj1OhHLLj1MjHLLj1GNH0G91GTH0G91aMkGz2Gx2Je2GzTd1GAG8G7G91aMkZD2aQZ2adMISHQ1LwLaLj1GJGdGVLj1at6GW1
JEcuL1ZhV7G91GnG7Lj1HrGJLaLj1GZIkG0HWHN1GnIkG0HWHN1GAG7GG1G8G7GG1JCG9.021000aHLGR0arGGOJpcjy0PzG4H
j0a0db3p0IiI8GW0b35GR0b2fcuE0bYKaKX0cYC0a0dbZz0LXG2HO1G4HV0XFG4HV0PzG4HV0cO1aKX2H4GEJR0LXG4GK0XFG4
GK0LXG4Gj1G2Gj0GjHuGlGW0PzG4H10cGSG50NLcSvaKa0LXG4Ho0PzG4Ho2Ie0LXG4Gc0XFG4Gc0PzG4Gc0cP2cmf0aYA0ccs
GL0PoG50cqAGLG50cwm0PzG4Hl0aVuG50a2pG50IOa2pG50XFG4Hl0HqLIG2G1KR0bseG50astG50LXG4Hu0XFG4Hj0bY7GW0L
XG2GH1G4GH2IK0HqG4IK0LXG4HB1G2GD0HCGW0V4GW0NUGW0a0bGW0VtaCQ0IWG4Ie0bZxG50PzG2JR2Lr1G4Lr2JR1WFa4E0H
qLlG4HO3Gj0I4LlG4Gj0HqLlG4Hd0PzQ4G4Hb2G2Hb3GH3GK3I60cPMI80HqSB0aAlG50as50HqG2IK0GWJjaYsaCQ0aDyMXGF
ccz3cDH3aD23P82GES32GFa7D2GEa7E2GNa7E2GTa7E2GFaCE2GXaZq2GFKz2GNNu2GXNu2GoNu0MXaVHGF0Z7QtGF2GE2GN2G
T2GX2Gg2Go2Gh2Gt2Hs2PP2Od2KB2GFGr2GXGr2GFH50G2Z7QtGF3GE3GN3GT3GX3Gg3Go3Gh3Gt3Hs3PP3Od3KB3GFGr3GXGr
3GFH50Z7QtGFH5HjHb2GXH52HsH52I4GFGr0IxG2G1I4Hj0Z7QtGgbxYG32KBbWjG33H52GFGrH50aDyMXHgS30HqHKGE2GN.0
21900GnG70HaG70GZG70HNG70GAG8G70GfGpG70J7ItG71IVG70JNIVG71ItG70GnG7G0GV0GZG7G0GV0GnM5G70GZM5G70GnG
Ea1SG70HaGEa1SG70GZGEa1SG70HNGEa1SG70GnG7G0Io0GZG7G0Io0GnG7KOGl0HaG7KOGl0GZG7KOGl0HNG7KOGl0GfGpG7G
0a0D0GnG7G0GU0GZG7G0GU0GnG7G0Mx0GZG7G0Mx0GAG8M5G72G7G0GV0HNTaG70HaG7G0ObGn4GZ0HNG7G0ObGn4GZ0GZG7G0
KJHN0HNG7G0KJGn0MjJUZEG70OhJUZEG70J7ItG7GOHrGl0GnG7GOGlH4GZG7GOGl0MjHmGzG70OhHmGzG70GnIkG0HWHa4HN0
HaIkG0HWGZ4Gn0GZIkG0HWHa4HN0HNIkG0HWGZ4Gn0GZG7H4GnG70HaG7GnGRHNG70GnG7H4GZG71T1NQ0HaT1NQ0GZT1NQ0HN
T1NQ0GnIkH4GZIk0GZIkH4GnIk0GnGJG7G0GV0GAG8GJG7G0GV0GZGJG7G0GV0GnGJG70HaGJG70GZGJG70HNGJG70GAG8GJG7
0GfGpGJG70J7ItGJG71IVGJG70JNIVGJG71ItGJG70GnJEG70GZJEG70Gna44G70GZa44G70HaG7G0GJGV0HNG7G0GJGV0GnOj
G70HaOjG70GZOjG70HNOjG70GnG7GOGl0GZG7GOGl0GnGSG70HaGSG70GZGSG70HNGSG70HaGSG7KOGl3IUaWM5G0HEGl6GdGl
2GJG74IUaWM0GZGSG7KOQK0J7ItG7GOKJ0JNIVG7GOKJ0GfGpGSG70G8G7G0G2Gz0HNG7GnGRHaG70GNGZNQ0GnG7G0GdGV0GZ
G7G0GdGV0GAG8G7G0GdGV0GnG7G0GJGdGV0GZG7G0GJGdGV0GAG8G7G0GJGdGV0GnaAPG70GZaAPG70GAG8aAPG70JjX60b820
T4VK0co6bYX1QbIdbYW0TkQD0bp00WH0QeGR0IdKAQeGR0G2QeGR0SLOHa2N0QbIda6EOHa2N0G2SLOHa2N0JsGRcPL0WFOz1a
KZ1a4E0MyG50c6zG50GMGm0SONi0QDMy0JCJK0HLJK0OJJK0GxZ80a6MZ80a1DZ80cPNGO0Vs0G8Iu0Iu0YSIu0aaKIu0bQM0Q
bIda6l0T3GO0IdT3GO0OqG61Hn0NE0NN0Ma0GJMa0JEMa0a6FMa0aarMa0cyMMa0OhMa1a6FMa0Mja6FMa0co70azg0cSb0aXN
0GMMy0bYR0be3aXN0aPI0HJJK0I4HJ0IOa8pGe0cg0M50d52Oz0IdHJ0MyHJ0aICHDGO0IdaICHDGO0X8HDGO1QXIdaHNHDGO0
YZX8Q9aHNHDGO0NOHDGO0IdNOHDGO0NOHDHnHDGO0JEHJ0X6HDGO0NwGO0aO0NwGO0bPmN90atRJpbyo0aO0HDGO0X8HDGOHnJ
pRiGR0RiGRHnX8HDGO0KIK00K0KI0HLIlHDGO1HDGO0bL5GO0bY80bXqGO0IgK00MHHDGO0HDGOPKbOm0YSPK0cR2HDGO0IdHD
GO0a1cGO0Ida1cGO0cjLNwGO0IcHnHDGO0IfHnHDGO0IcH4HDGO0IfH4HDGO0IcQXIdHDGO0IfQXIdHDGO0a9bIc1If0N90IdN
wGO1Ic1If0YZIcQ9HDGO1IfQ9HDGO0IcHnNwGO0IfHnNwGO0YZIcQ9NwGO1IfQ9NwGO0IcHnIf0IfHnIc0YZIcQ9If1IfQ9Ic0
Oy0P60OyHnHDGO0P6HnHDGO0OyHnNwGO0P6HnNwGO0QbIdaXD2aai0LFGR0LcGR0IdGCLFGR2LcGR0LFGRHnHDGO0LcGRHnHDG
O0YZGCLFGRQ9HDGO2LcGRQ9HDGO0LFGRG0IdHDGO0LcGRG0IdHDGO0c8U1Q71NN0GxRiGR1YnGR1RiGRHnHDGO1YnGRHnHDGO1
a0L1XU0IpGm1My1Gi1SONi1GMJK1HLJK1JCJK1K01JO0K3Gm1My1Gi1GMJK0G8K70GAK70GpK70GfK70auM0c7K0aDZ0bbT0JE
GdGlG8TU0GJGdGlGJG8TU0QbIdcPQ0IdaDZ0QbIdbbS0aUTGJGdGlGJG8TU0OyS5a3R0P6S5a3R0QsTKGR0SLOHQsTK0QsTKGR
HnHDGO0SLOHQsTKHnHDGO0YnGR0RiGR0a9d0biMbKec4X0bpK0d5t0cA70Q90G8IuG0NP1HQ0WFOqG62Hn1NE1NN0JeJK0GMJK
0IgJK0SOGi0a5g0GAQsa7AZFOz0G8Qsa7AZFOz0GAZFOz0G8ZFOz0I4HJK00L5OqHn2G60GJLF1Lc1NE1NN0aWy0HDG6T3GO0I
cG0GM0IfG0GM0Kwa9bIc2If0IcHDGOHnIf0IfHDGOHnIc0HDGOHnIc3If3Oy3P60QbIdaXDHnHD2aaiHnHD0IdGxRiGRHnHDGO
2YnGRHnHDGO0GxRiGRHnIdHDGO1YnGRHnIdHDGO0IcQXIdNwGO0IfQXIdNwGO0OyQXIdNwGO0P6QXIdNwGO0IdQsTKGR0QbIda
6EOHQsTK0IdQsTKGRHnHDGO0QbIda6EOHQsTKHnHD0GdST0aTYHEST0GfG8JHST0GpG8JHST0QeGRG0HrHEGV3GdGlLQJsGRHE
GV0G2QeGRG0GdGlLQJsGRHEGV0QeGRG0GMG93Ow0G2QeGRG0Ow0QeGRG0LP3GEHEaCi0SLG0HrHEGV2GdGlLQJsGRHEGV0G2SL
G0GdGlLQJsGRHEGV0SLG0Ow0G2SLG0Ow0HlSxa07c5E0bPeG50a0sG70Y00GfIF0GpIF0cPJ0cMh0R9I80GARJ0G8RJ0GAQh0G
8Qh0KGG8a0X1GAa0X0JUG8a0X1GAa0X0I4IdG50GxOr0NP0aBm0cYO0PocSu0a38Se0cxsGx0UIGRbpLG50HqIdG50adm0a1X0
JUGAKJ1G8KJ0KGGAKJ1G8KJ0JUGqMa0KGGqMa0aNd0aCK0GfIFN9GEHEa0C0cJxRk0aMuGOJpG80HtIlGCUMKy0YB0MKIuGu0L
WIuGu0aMuGOJpGA0aIuHL0bLs0X6atv0clA0acIcVe0bPucK20bKdcmt0cgj0bL90bLA0aHsaNgGWbms3chzOW3OWHD4a6l4Je
4Sg4Gz3GzWf4Sg3NiGl3TdGl3OWNi4Td4Ic4If3Gna4l3GZa4l3OWGnG74GZG73GzTd3GpK7LP3MHWf3OWGpQY4MH3GpK7Sg3H
aa4l3OWHaG73GfK7Ow3XXWf3OWGfQY4XX3GfK7Sg3HNa4l3OWHNG73aXiLP3MHLP3JeLP3SgLP3GzLP3GfUSSg3aXiOW3GzIg3
OWKI3GfK7I53XXI53IgI53SgI53GzI53GpUSWf3GAUSWf3HJI53IfI53IZGl3XXHJ3dAL3WfHJ3PlLP3OWIdHD4Kk3GpQYHJ3G
fQYHJ3KR3L23Jo3K9LP3L6LP3KRLP3JoLP3K90IdPMGL0G8IuG0HNTaG70cf6HmKy0V3GW0GdI8G0GbGM0a87GW0bKladGGW0b
Q8adGGW0aMjGW0a6BGW0GSGxG0IiGdI80aMpGW0a5DRkGW0biGGW0IpHEGlG0aV81HQGp0V8GzG0cEtG70cuMGW0c7iGW0bmdG
W0cJpbgkGW1bw5GW0cLvGW0cLwGW0a6ka6NGWG3GE0ch8GW0aHsaNgGWOW0a6ZKTRkGW0cP7Rt0aUcRt0aXIZDGW0b5pZDGW0G
AJQHkGU2SW2HPGU0G8JQHkGU2SW2HPGU0GAGxGuHkKJ3SW3HPKJ0G8GxGuHkKJ3SW3HPKJ0GAL5GuHkGU3GbT63HPGU0L5GuSW
0G8L5GuHkGU3GbT63HPGU0MaSW0HEI8SW0HkGAHnHPG8L5GuLY1G8HnHPGAL5GuLY0a4EJU1KG0JUGxGu0KGGxGu3H4JUGxGu0
a3KGWKG0GAGdKyI80G8GdKyI80HEcXzbyt2byu2byv2byw0bOzGWHFGdG6JUG85KGG84G0Gz3GpG6HEG0Gz3GfG6HEG0Gz3GdG
0HQ3GpG6HEG0HQ3GfG6HEG0HQ3GdG6M53GpG6HEG0M53GfG6HEG0M53GpG6HE3GfG6HE3GdG6JUGA5KGGA0Gxa1B0Z4GW0bX2G
W0GdI8SW0c5YIj1HrH4J01J0H4Hr1HrH4GEaC31GEaC3H4Hr3Y61acV1abo1aWR0OQaOR0bc20JUJQ0KGJQ0JUL5Gu0KGL5Gu0
JUN6LZGu0KGN6LZGu0GScqJ0aIuHLG0Gz0cjC0bb90Zsa6N0bX9NE0a6ZbYZGW0GPLWGJHQ1MKGJHQ1OeGJHQ1POGJHQ1LWGJH
QG0GdGl1MKGJHQG0GdGl1LWHQG0GJGdGl0asBa0W0cj80cp6a0W0a1XG0bbFcXZ0GPHZMKHQ2LWHQ2OeHQ2POHQ0GJGdGl0GPG
xJjIC1GzJjaBP0aB3GW1cJZGW1IUGW1cgcGW0cJDRVGW0GWJjaAE2TIGRaOq4R12JsGRR14a4Z2aMn2Zu2V32aIW2HEPm2I8Va
2GdPm2G3Va2aJrZ42ZHNc3Il2aLAa8ya0y2VJRNGF4GE4GN4GT2NbZu2abNaPg2JsGRa4ZIb2a0J2JsGRHZ2aCk2a0y2VcKT2a
7hKT2aBPKT2ZaKT2M12a6b0aJAGW0HmKy0GWJjaUa2a6bG3GE2aCkG3GE.024400cJIGU1aK61a1C1IOa1C1Pvb1U1V6Wo1a5h
a5WaPb1aseGRPM1JO1bLlaHLIT1GJTd.024600IpHKGF2GE2GN2GT2GX2Gg2Go2Gh2Gt1ITHs2PP2Od2TP2SY2Q22Qy2TD2RR2
Su2Ja0a2yHKGF2GE2GN2GT2GX2Gg2Go2Gh2Gt1ITHs2PP2Od2TP2SY2Q22Qy2TD2RR2Su2Ja0HKGFIzIC1GEIzIC1GNIzIC1GT
IzIC1GXIzIC1GgIzIC1GoIzIC1GhIzIC1GtIzIC0ITHsIzIC1PPIzIC1OdIzIC1TPIzIC1SYIzIC1Q2IzIC1QyIzIC1TDIzIC1
RRIzIC1SuIzIC1JaIzIC0a2yIxG2G1GC4Hu4Hj4Hb4GH4IK4HO4HV4GK4I64HR4Gj4HB4H14GD4Ho4Ie4Gc4Ge4HS4GB4HT4Hy
4Ht4Hd4Hl0IpIxG4G1GC4Hu4Hj4Hb4GH4IK4HO4HV4GK4I64HR4Gj4HB4H14GD4Ho4Ie4Gc4Ge4HS4GB4HT4Hy4Ht4Hd4Hl2G2
G1GC4Hu4Hj4Hb4GH4IK4HO4HV4GK4I64HR4Gj4HB4H14GD4Ho4Ie4Gc4Ge4HS4GB4HT4Hy4Ht4Hd4Hl1HKHg0NbIpITPP3Od3T
P3SY3Q23Qy3TD3RR3Su3Ja0GJIpHKGF3GE3GN3GT3GX3Gg3Go3Gh3Gt2ITHs0NbIpHKHg0KyaM3HFHE2GaHE2HFGd2GaGd2HFJ
EJOHE2GaJEJOHE2HFJEJOGd2GaJEJOGd2HFQBJOHE2GaQBJOHE2HFQBJOGd2GaQBJOGd2HFGpG6G82GpHFG6G8Ga3GaG6G8HF2
GaGpG6G82HFGpG6GA2GpHFG6GAGa3GaG6GAHF2GaGpG6GA2HFGfG6G82GfHFG6G8Ga3GaG6G8HF2GaGfG6G82HFGfG6GA2GfHF
G6GAGa3GaG6GAHF2GaGfG6GA2HFGdG6G82GdHFG6G8Ga2GfGaG6G8GpHF2GpGaG6G8GfHF2GdGaG6G8HF2GpHFG6G8GfGa2GfH
FG6G8GpGa2GaGdG6G82HFGdG6GA2GdHFG6GAGa2GfGaG6GAGpHF2GpGaG6GAGfHF2GdGaG6GAHF2GpHFG6GAGfGa2GfHFG6GAG
pGa2GaGdG6GA2HFGpG6HE2GAGaG6G8GpHF2G8GaG6GAGpHF2GpHFG6HEGa3GaG6HEHF2G8HFG6GAGpGa2GAHFG6G8GpGa2GaGp
G6HE2HFGfG6HE2GAGaG6G8GfHF2G8GaG6GAGfHF2GfHFG6HEGa3GaG6HEHF2G8HFG6GAGfGa2GAHFG6G8GfGa2GaGfG6HE2HFG
dG6HE2GAGaG6G8GdHF2G8GaG6GAGdHF2GdHFG6HEGa2GfGaG6GpHEHF2GpGaG6GfHEHF2GdGaG6HEHF2GAGfGaG6G8GpHF2G8G
fGaG6GAGpHF2GAGpGaG6G8GfHF2G8GpGaG6GAGfHF2GpHFG6GfHEGa2GfHFG6GpHEGa2G8HFG6GAGdGa2GAHFG6G8GdGa2GaGd
G6HE2HFGJJOHE2GaGJJOHE2HFGJJOGd2GaGJJOGd2GJHE3Gd2GpIBG6G8GJ3GJG6G8IB2GJGpG6G82GpIBG6GAGJ3GJG6GAIB2
GJGpG6GA2GfIBG6G8GJ3GJG6G8IB2GJGfG6G82GfIBG6GAGJ3GJG6GAIB2GJGfG6GA2GdIBG6G8GJ3GJG6G8IB2GJGdG6G82Gd
IBG6GAGJ3GJG6GAIB2GJGdG6GA2GpIBG6HEGJ3GJG6HEIB2GJGpG6HE2GfIBG6HEGJ3GJG6HEIB2GJGfG6HE2GdIBG6HEGJ3GJ
G6HEIB2GJGdG6HE2HFNPGpG6G86GA4GfG6GA6G83JHHkG8GOHPGA5GAGOHPG84JD3GA3Gf3G83Gp2GaGA3Gf3G83Gp2HFGAG6G
aG83GfG6GaGp2GaGAG6HFG83GfG6HFGp0HkGqIb0HPGFKzIb2KEIb1GNNuIb1GqIb1GXNuIb1GNO7Ib1GoNuIb0IzIb0GAGoNu
Ib1GNO7Ib1GXNuIb1GqIb1GNNuIb1GFKEIb2KzIb0G8GqIb0HFOA0HZOA0aL7OA0HkGFKzIb0G8GFKzIb0O6HPGA2G81HkGA3G
6HPGAG6HPG85G84HkG8G6HPGA8G82G83G6HPGA6G6HPG80GPGx0GSGx2G0QuVE2ThGPG2Gx0GxG0HEOR2GdOR2cK7aKgOR2HkG
AGOHPG8OR3G8GOHPGAOR2JHaKgOR0GPG2Gx0GSG2Gx0GPUM0GSUM0GPGdUM0GSGdUM0GPaWC0GSaWC0GPOeHQ0GSOeHQ0GPOeG
2HQ0GSOeG2HQ0GPLWHQ0GSLWHQ0GPLWG2HQ0GSLWG2HQ0GPLWYu0GSLWYu0GPPOHQ0GSPOHQ0GPPOG2HQ0GSPOG2HQ0GPMKHQ0
GSMKHQ0GPMKG2HQ0GSMKG2HQ0GPMKYu0GSMKYu0GPJe0GSJe2ThGPG2Je0bar0Or0GSGz0JlGz0GzG0GdOR0b1d0GPGz0GzG0G
AGqGP2G8GqGP2HPGqGP2HkGqGP3G8O6GP2X6QXHkGAO6GP0GAGqGPGz0G8GqGPGz0QlOJ1GSGz0HkGqQlGSGz0HPGqQlGSGz0H
kGAO6XONP1G8O6XONP0HPG8O6XONP1GAO6XONP0HkGqGz0HPGqGz0GPHPG8HQ2GAHQ1HkGAHQ2G8HQ0GSOJ0GxG0GAGqGP2G8G
qGP2HkGAJHGqGP2HPG8JHGqGP0GSGxG0Gdb0SI81OeHQG0GM0OeHQG0GAGqGP3G8GqGP0IJGz0GSGxG0HkGAO63HPGAO64G8O6
3HkG8O61GzG0HkGAO63HPGAO64G8O63HkG8O60HkGAHQ1G8HQ0HPGAHQ0GSHZGx0GPHZGx0GSHZG2Gx0GPHZG2Gx0HPG8HQ0GP
QHG0WT0VB0ZZ0aCN0b7x0GPIg0GSIg0a2D0coZ0QH0aI7aV60a6eaV60bKf0aAQ0GPPo0GSPo0TeKy2G0PM3Ht0QC0ZZG0ULbV
C0XzaIw0GSa3tT60GPa3tT60ceF0I4IWa7HKfOJ0GPGAISHA1G8ISHA0GSGAISHA1GfISHA1G8ISHA1GpISHA0aCGG6aKf0b3K
G50cSHG50b0NG50aJm0at30cK6JD0LSL20JDGRbze2bq80IgG6VF0TmGW0arIceC0a1QG6cfl0aAkGW0S9Ps0cqWJja1T2aRH2
Q32aDB2QL2PA2Sq2OQ0a4qGRbPO0GSa1EGw1NKGw0GPNKGw0GSQHG0WT0RYKELA0a8oKELA0aTN0VbG50OQ0SnG50br50cXm0a
dN0aUW0aX40atn0cn30bdw0b2q0by80cy30byW0cY80cXA0b310atW0cNu0GSKHMv2Nf2Pi2PI2Kr2Pf0GPKHMv2Nf2Pi2PI2K
r2Pf1aaFS00GSKfS01JeS00GPa67S00GSaaFS00GPKfS01JeS00GSa67S00Xzchs0KEMM0KzMM0aIlKzYg1WeYg0aU4VdG51aU
LG51WaG50ItZLJD0IVZLJD0adIaBQGW0aBQGWJjcsbUJ3csdUJ3ad4UJ3ad5UJ3ad6UJ3ad7UJ3cseUJ3bdyc4W0GPadIaBQGW
0cSxa2wGW0cLma2wGW0cMda2wG50aE7GW0a6hbZq1bZr1bZs1bZt1bZu1bZv0GSGzG0GMG83GEH00GPGzG0GSGMG83GEGSH00W
EJjPs2S90aLfJjaOPPs2byDS93Ps2aOPS90GSPT0GPPT0a1QG6aWi0aHi0Oickd0THGRarX0cXy0aHZ0Xk0aNy0THGRbiL0auc
GW0bbA0UHGSIg0GNaRmbKqG83GA0d3tG50I2cyLG50a0kVbG51SnG50bpNVbG6SnG50SnG6VbG51G0GVG53G6SnG6VbG50GdSn
G0GVG50HESnG0GVG50HZGSGz1GPGz1G2GSGz0c4HGW0bQOGW0cuUaWFGW0b7o0bbycuh0cBd0b410cL30bqz0cxc0b4r0GPLAb
yi0ce20ccf0cR60cct0ch4PH0ayz0K3Rk0GSaM2MD2Mv0GPaM2MD2Mv0aCNZjaCL0QHaItVB0UL0GPaCN0aDBVBG6UL0HqGSa3
tT61GPa3tT60GSJeIlGx0KNaRM0bQ7SH0cJu0aWi0SHcgh0a1VG0GSJD0IpKNaRM0b470JYa720LecJeGAZgZS0GPad2GAZgZS
0GSad2GAZgZS0GPGAaRLaTO0GSGAaRLaTO0aM6aZyG50GaGSPOHQ0GAJza720K3QC0TlJHIlGSGzIlGPGx0GPaDY0cTTGAbXa2
bXb0auSGWJjadN0GaGzG0GVG6GEH0G90a310cU8aPra310bxsaPra310IOa310GPJDIUaBx0ceicfC0aKJ0a5x0bj6cgJ0aNyZ
jblu1G0bhU0YOGWJjbyf0Sq0ZZIUaOR0aNX0PTIlaPG0baT0cXD0GxGTVE0cgT0ScaZv0NeG0PH0aD10Txa5WGW0aOrbg0GW0b
bucPh0XUIUGPGx0GSPTG0HEGbGPcjP0GPaBeWY0HkaJ9WY0GPWY0HPaJ9WY0GSWY1GaPMGL0Poa92G50abYaM60Tb0RS0LCa7F
1KP0adYKP0ae7KP0HPG8a300a300HkG8a300GSaUs0GPaUs0PMGL0GaPMGL0Q7Ht0GaQ7Ht0TeHt0GaTeHt0UHLIJD0GaLIJD0
HmIiJD0GaHmIiJD0IxJD0P4GSIxJD0UHIxJD0c3qJD0IgGRbNx0GTUfJC1a5UJC0GaGTa5UJC0GTb63JC0GPGTK2Ig0GSGTK2I
g0chT0aCfUHGSIg0IpGSIg0HmIiGPIg0GPIiGSIg0UHGPIg0GaUHGPIg0RvIg0P4GSIg0GaJC0HmIiJC0GhN3JC1K2GPIg2RvI
g0GgK2GPIg0GhK2aY2GPIg0GaGhK2aY2GPIg0OdK2GPIg0QyK2JC0UfJC0HmIiUfJC0GaUfJC0GgaWbGPG6GSa190GPa190GSa
190GhaWbUHGPa190IpHmIiGhK2Ig0GaUfRvJC0aCM0aDFcqTaCM0GaaKDaCM0aaG0GaaaG0a5UJC0GhUfaXMJC0GaGhUfaXMJC
0JDGL0P4GSGz0NbK3JDGL0HPG8aM7GSGx0HkG8aM7GSGx0HPG8P4GSGx0HkG8P4GSGx0GPKkGLIy0GSKkGLIy1L7GLIy0GPJeM
yGSHt0GaL7GLGW0HFGdGl0HZGdGl0GaGdGl1IBHqIZKaGLIy2IZKaGLIy1GJHqIZKaGLIy2IZKaGLIy1HXIBIZKaGLIy2GJIZK
aGLIy0PyRzYqG5Iy0GaL7GLIy1KfL7GLIy1GPKf0IWGaGPKfOJ0a7HKf0IWa7HKfOJ0HZGAJQIy1G8JQIy1a17GAJQIy2G8JQI
y1MKIuGuIy1LWIuGuIy0GaMKIuKaGLIy1LWIuKaGLIy1MKIuGuIy1LWIuGuIy0HFGAN6LZGuIy1G8N6LZGuIy0HZGAL5GuIy1G
8L5GuIy0aLiNbIpHKGF4GE4GN4GT4GX4Gg4Go4Gh4Gt3ITHs1IpLlHKGF4GE4GN4GT4GX4Gg4Go4Gh4Gt3ITHs1NbIpLlHKGF5
GE5GN5GT5GX5Gg5Go5Gh5Gt4ITHs0GaadxGZG71GmG51MyG51SOG51JNIVG71GZG71J7IVG70bV6OxGZG70GacUtGZG70IDGZG
70GaIDGZG70OjIDGZG70GaOjIDGZG70GPGZG70abxaDTGZIF1b0vGZIF0GPGZIF0GaGPPyHNG6GZG73HaG6GZG70aaOGPGZG70
GabKWGPGZG70aBYGSGZG70a8tGSGZG70a5QP4GSGZG70a7QP4GSGZG70GaHPa3bGSGZG71Hka3bGSGZG70RqHPa3bGSGZG70L5
Mx0RqHka3bGSGZG70IpGaGSGZG70d4LGZG70aJ7JNIVG71GZG71J7IVG70GaaJ7JNIVG72GZG72J7IVG70cnNGZG70GacnOGZG
70adtGZG70GaadtGZG70cJrGZG70GJL5Mx0GNbPvIu0GSHQThG2GSHQ0aAm0HmLF1Lc0GAaYka07a0e0G8aYka07a0e0HnG0GM
MZ0LwLaaXELF0LcaXELa0GdGlG0HEGV0WBP3JH0HrSO0WBTlJH0K3OqG62Hn0GSJeG0SIGM0G6G0GM0QeGRYmHa0HPG8KJG0GM
0HkGAKJG0GM0GAaATa1k0G8aATa1k0IzaATa1k0IJGfK71GpK70GAG6G8GJTU3K71a9d0HrG8K71GAK70GfK7G0GzG90Ora6mP
KHEcVY0GSbKXJe3G0GnR24GZR21GxG0GnR23GZR20WBGAGSGxGu1G8GSGxGu1GAIuGu1G8IuGu1GAGJIuGu1G8GJIuGu1GAGSN
6LZGu1G8GSN6LZGu1GAa17JQ1G8a17JQ0HaQBG70HNQBG70MjaNpGzG70OhaNpGzG70G8G7G0IpGm0HrGnG71GZG71GAG8G71G
nGJG71GZGJG71GAG8GJG71GnG7KOGl1GZG7KOGl1GnGJG7KOGl1GZGJG7KOGl2a44G70b18aWGaJA2bQq2bSu2bQr2bTw2bRt2
bSv2bQs2bUS2bSP2bTR2bRO2bTx2bRu2bSw2bQt2bUi2bSf2bTh2bRe2bUD2bSA2bTC2bR92bUT2bSQ2bTS2bRP2bTy2bRv2bS
x2bQu2bUq2bSn2bTp2bRm2bUL2bSI2bTK2bRH2bUb2bSY2bTa2bRX2bU62bS32bT52bR22bUj2bSg2bTi2bRf2bUE2bSB2bTD2
bRA2bUU2bSR2bTT2bRQ2bTz2bRw2bSy2bQv2bUu2bSr2bTt2bRq2bUP2bSM2bTO2bRL2bUf2bSc2bTe2bRb2bUA2bS72bT92bR
62bUn2bSk2bTm2bRj2bUI2bSF2bTH2bRE2bUY2bSV2bTX2bRU2bU32bS02bT22bQz2bUr2bSo2bTq2bRn2bUM2bSJ2bTL2bRI2
bUc2bSZ2bTb2bRY2bU72bS42bT62bR32bUk2bSh2bTj2bRg2bUF2bSC2bTE2bRB2bUV2bSS2bTU2bRR2bU02bRx2bSz2bQw2bU
w2bSt2bTv2bRs2bUR2bSO2bTQ2bRN2bUh2bSe2bTg2bRd2bUC2bS92bTB2bR82bUp2bSm2bTo2bRl2bUK2bSH2bTJ2bRG2bUa2
bSX2bTZ2bRW2bU52bS22bT42bR12bUt2bSq2bTs2bRp2bUO2bSL2bTN2bRK2bUe2bSb2bTd2bRa2bU92bS62bT82bR52bUm2bS
j2bTl2bRi2bUH2bSE2bTG2bRD2bUX2bSU2bTW2bRT2bU22bRz2bT12bQy2bUv2bSs2bTu2bRr2bUQ2bSN2bTP2bRM2bUg2bSd2
bTf2bRc2bUB2bS82bTA2bR72bUo2bSl2bTn2bRk2bUJ2bSG2bTI2bRF2bUZ2bSW2bTY2bRV2bU42bS12bT32bR02bUs2bSp2bT
r2bRo2bUN2bSK2bTM2bRJ2bUd2bSa2bTc2bRZ2bU82bS52bT72bR42bUl2bSi2bTk2bRh2bUG2bSD2bTF2bRC2bUW2bST2bTV2
bRS2bU12bRy2bT02bQx0GZQJG7G0GdGV4GJGdGV0GnGJG7G0GdGV0GZGJG7G0GdGV0GAG8GJG7G0GdGV0GZQJG7KOGl0GnGJG7
KOGl0GZGJG7KOGl0HNG7G0HEGV0HaG7G0HEGV1JEG70HNJEG70GnGJJOG70GZGJJOG70GnJEJOG70GZJEJOG71QJJEJOG71G7G
0JlRz0HaG7GOGl0HNG7GOGl0GZG7G0IoG0GdGV5GJGdGV1QJG7G0Io5G0GdGV6GJGdGV0Gna030GZa030GnGJa030GZGJa030G
nG7GOGPJe0GZG7GOGPJe0GnG7KOGlGOGPJe0GZG7KOGlGOGPJe0J7ItG6JNIVG71IVG6JNItG71ItG7G0GU1IVG7G0GU0JNIVG
7G0GU1ItG7G0GU0J7ItG7G6J7IVG71IVG7G6JNIVG70JNIVG7G6JNItG71ItG7G6J7ItG70P3JHKNTlJH0TlJHKNP3JH0JNIVG
7KNJ7IVG70J7IVG7KNJNIVG70TlJHKNJ7IVG70P3JHKNJNIVG70J7IVG7KNJ7ItG71ItG7KNJ7IVG70M5G7ISaLlG80G7ISGZU
ia6OHa5HN2HNUia6OGn5GZ0cUANPOhG70bxuNPMjG70JUNPMjG70KGNPMjG70JUNPOhG7G0My2MjG7G0Gm0HPG8aBqOhG71GAa
BqMjG70MjJzGzG70OhJzGzG70GZG7G9J0GnG70GnG7G9J0GZG70J0GZG7G9GnG70GZG7G0GmGG0GnG7G0GmGG0GZG7OaHt0GAG
8G7OaG2Gz0HaQJG7KOG2Gz0GAHWGfG8HWGpIk2GpG8HWGfIk0GfHWG8GpHWGAIk2GAGpHWG8Ik0GAHWGfG8HWGfIk0GfHWG8Gp
HWG8Ik0GAHWGpG8HWGpIk0GfHWGAGpHWGAIk0GnIkG0HWGfGOGl0GZIkG0HWGfGOGl0HaIkG0HWG8GOGl0HNIkG0HWG8GOGl0G
nIkG0HWGpGOGl0GZIkG0HWGpGOGl0HaIkG0HWGAGOGl0HNIkG0HWGAGOGl0GnIkG0HWGfKOGl0GZIkG0HWGfKOGl0HaIkG0HWG
8KOGl0HNIkG0HWG8KOGl0GnIkG0HWGpKOGl0GZIkG0HWGpKOGl0HaIkG0HWGAKOGl0HNIkG0HWGAKOGl0GnIkG0HWGfG9GnIkG
0HWGp0HaIkG0HWGAQUHaIkG0HWG80GZIkG0HWGfG9GZIkG0HWGp0HNIkG0HWGAQUHNIkG0HWG80GnIkG0HWGfG9GZIkG0HWGf4
GpG9GZIkG0HWGp0GZIkG0HWGfG9GnIkG0HWGf4GpG9GnIkG0HWGp0GnIkG0HWGfG9HrJO4GpGGHrJO0GZIkG0HWGfG9HrJO4Gp
GGHrJO0HaIkG0HWGAQUHNIkG0HWG80HNIkG0HWGAQUHaIkG0HWG80G8GJG7G0QuMY0K0G5G9GZG70HJJKG9GZG70GnG7G9HJJK
0GZG7G9HJJK3NOHDGO0IcG9GnG70GnG7OaIc0IfG9GZG70LFG9GZG70GnG7OaLF0LcG9GnG70GAQfIo0G8QfIo0GfQfIo0GpQf
Io0JEGdGla0e0HlSxcho2aDmKI0GAGSL5Gu0G8GSL5Gu0GAGSJQ0G8GSJQ0HlSxGARiGu2G8RiGu2GAaJ2Gu2G8aJ2Gu0GAGxG
uG0LP0G8GxGuG0LP0GAGxGuG0R2IlJUKJ0G8GxGuG0R2IlKGKJ0GAGxGuG0R2IlKGKJ0G8GxGuG0R2IlJUKJ0GAIuGuG0GM0G8
IuGuG0GM0GANPIcGu0G8NPIfGu0GJGANPIfGu1G8NPIcGu0GAGPN6LZGu0G8GPN6LZGu0JlXi0GdTaI80YSIuYmGA0G8IuM4G0
Gx0YSG8IuG0GM0IuG0GeMZ0HYIu0aaKIuYmGA3Gf0HqIu0I4Iu0IuG0LP0I4IuG0LP0O4IuYmGf3Gp0YSIuG0HmXAbXSIlG7IS
GfG6G8BGA9GpG6G8BGA9G8G6Gf9GAG6Gf9G8G6Gp9GAG6Gp0I4TkQD0TkQDG0Ow3G2GzG93G8G7G93GAG7G90GzG0HEGl0IpGd
Gl1T31LwLa1aAm0Gza6mPKHEGlG6JUGqa6mPKGdGl1G0ckKHt0IpatASOG50GfG7OaGz0IpGSOJ1OJ1Ic1If0GzG0G2GzGOJpG
82GEHEaCiGOJpG80K3P3JHNi1TlJHNi1JC1G2Gz1Gx0GEY6a430HQG0GMG92LP0GeIlHQ0HQG0a3lLQKG0G8HQG9GAHQ0GAHQQ
UGdGl0GdGlQUG8HQ0a5gG0GAGqGP2G8GqGP0GPa5g0GiG0GAGqGP2G8GqGP0GSa1X0GPa1X0GAWyXi0G8WyXi0GAGJWyXi0G8G
JWyXi0boyVs0WoH4Vs0VsaUTG0GdGl0bV0a9d0GxG0bKmcKM0bozOH0cfKOz0K0G5G6M0T35G0HJG90a1cGOG6M0T30bfMcip0
co80POHQG0GAGqGP3G8GqGP0GPJeG0GpG71Or0GSGzG0GpG70GPGzG0GpG70bXuGSGx1GPGx1GSJe1GPJe1GSGz1GPGz0cVZ0L
wLaJK0LaG0Ow0LwLaG0HEGV0OILa1LwLa0GJGm0JEGm0MKPyIuGu0LWPyIuGu0ZQ0c700WFIpGMJK2GmJK2GiJK1NNJKG0GM4G
m1GxNEJK2NNJK0GEOqG6JK2HnJK0WFGiJK0c7ZGEWi0a4EG0Ma0QBMaJK0balaAhMa0MaG0GJGV1auxG0Ni0b5ba7R0MjaPp0I
8aPpG0aY1aAja5KYv3aBqaAja5KYv2IdbowJpYv0Maa5KGCOxJK0cQzMaJK0MaG0GnG7G0GU2GiG52NE2NN2Ow2LP0a1k0IJGA
HQJK0HlSxcY2a6B3cNq3cPI0GmG5G0G2GzG93HvJhG93HJG93GMGG3HJGG3UYGE3GPHQ0MyG5G0IZG93GMGG3TlH03P3H00GmG
5IlGAGqGz3G8GqGz0cwfHnJDOz0Q7G5G0GMG93LP0ZFOzG0KGJz0aa1Oz0Q7G5IlGAGqGz3G8GqGz0IpQ7G5G0HvJh0Q7G5IlG
JGz0IpSOG50GmG5IlHQ0MyG5IlHQ0Q7G5IlHQ0aPqOz0cUBaPqOz0HlSxcTBa6B0asZHnaKZ0NEG0GM0NNG0MyG52Ow0NEG0Ow
2OqG60NNG0OqHn1G9NE0NEG9NN0NNG9GlG9NE0NEG9GlG9NN0NNQUG6Y6G0NN0NEQUG6Y6G0NE0JzNNG0a3l1NEG0a3l0GJGxN
E2NN0JzNNG0a3lG6aa1Oz0OqG6G0GMG91HnG0GMG90GJOqG62Hn0GEbpOOqG63Hn0cgkIJHn2G60OqHnaAXOqG61G6G0GbRz1H
nG0GbRz1G6G0HEJO1HnG0HEJO1G6G0GJOw3LP3GJLP0G2TXG0LP0OqHnG0GJOw4LP0HlSxbQkaHp2aBMaHp0K0G5G0GMGG0a1c
G0GMG90JEHEGlG0GJGdGV4JEGdGV0HJJKG0GMG93P3H00UVMyUV0bKcG0GMG90K0G0JC0NOHDGOG0HvJh0X8HDHnHDGO0K0G5G
9GmG50GmG5G9K0G50K0G5G9HJJK0GJKIHD0GEaKWK0aZf0GNaKWK0aZf0K0G5G0GEH0G9G6GEH0GG0NwG0GTH0G90IcG0GzMZ0
IfG0GzMZ0IcG0KkGLG90IfG0KkGLG90IcHnM0HDGO0IfHnM0HDGO0IcHnM0HDGOG0GMMZ0IfHnM0HDGOG0GMMZ0IcHnM0HDGOG
0GMG90IfHnM0HDGOG0GMG90IcHnM0HDGOG0GMG9G80IfHnM0HDGOG0GMG9GA0IcHna020IfHna020IcG6WdIdHDGO0IfG6WdId
HDGO0IcG6Ida020IfG6Ida020IcG9VPHDG9If0IfG9VPHDG9Ic0IcG9UVHnHD0IfG9UVHnHD0IcG9UVG9If0IfG9UVG9Ic0IcG
9IfG9VPHD0IfG9IcG9VPHD0IcG9M0HDG9IfG9M0HD0IfG9M0HDG9IcG9M0HD0M0HDGOHnIc4If4IcG0GMMZ4IfG0GMMZ0VPHDG
OHnIc4If1M0HDGOHnIc5If0UVHnIc2If1G9IcG9K0G52IfG9K0G50GJaUZIc2If2IcG0LP0IfaAXIc1QUIc0IcJzPKMl0IfJzP
KMl0IcJzPKMlG9M0HD0IfJzPKMlG9M0HD0aa0Wm0aRPWm0aa0WmHnHDGO0aRPWmHnHDGO0K0G5G0b1eG90OyG9WdK0G50P6G9W
dK0G50OyG9WdIdHDGO0P6G9WdIdHDGO0OyG9K0G50P6G9K0G50OyG9IdHDGO0P6G9IdHDGO0OyG9NOHDGO0P6G9NOHDGO0OyG9
IdNOHDGO0P6G9IdNOHDGO0GJOy1P60LFG0GM0LcG0GM0LFG0GmG5GG0LcG0GmG5GG0LFG0Q7G5GG0LcG0Q7G5GG0LFGRHnHDGO
G0GMG90LcGRHnHDGOG0GMG90LFGRG9K0G50LcGRG9K0G50LFGRG9HJJK0LcGRG9HJJK0LFGRG9NOHDGO0LcGRG9NOHDGO0LFGR
G9IdHDGO0LcGRG9IdHDGO0GxGAHmKyJK1G8HmKyJK0JzLF1Lc1LFHnHDGO1LcHnHDGO0LFG9Lc0LcG9LF0LFG9LF0LcG9Lc1QU
LF2G6Y6PKJOG0LF0QeGRYmHN0aWyG0WlJU0cqHNE0bbV0cEo0J0GAK71GpK71GfK70aAmG0Ge0GdGlJEG8TU0GJGdGlGATU0Gd
GlGJGATU0GJGdGlGJGATU0HrJOKOGAa2NGRGJGd0J0GpK7G0Ow1GfK7G0LP3G9J0GpK70GJGpK71GfK71GVIdG50I4GJGVIdG5
0QbIda6lG0I4cBUNi0GdI8G0GzG94GG0GpK7G0GzGG0T3G0HEGV2HJJK0JEGdGlaJ0a3R3G0HEGV1KIJK1aUZIc2If0VPM0IcH
nHDGO2IfHnHDGO0JELaaJ0a3R0IJJEGdGlJK0GJLaJK0GSGdGl0WFGSGdGl0J7IVGSG71ItGSG70JNIVGSG71ItGSG70GAG8GS
G70GnGPG70HaGPG70HNGPG70J7IVGPG71ItGPG70JNIVGPG71ItGPG70GAG8GPG70GfGpGPG70GZG7G0ObHN4Ha0GnG7G0ObHN
4Ha0GxG0JUGqGP2KGGqGP2HkG8JHGqGP2HPGAJHGqGP0JeG0GAGqGP2G8GqGP2JUGqGP2KGGqGP0JlGx0GPIJGx0GSIJGx0GPK
wG2Gx0GSKwG2Gx0GPYr0GSYr1a7q0GPa7q0HEGPa7q0GPIJGz1HZJe0GSHZJe0GPHZOr0GSHZOr0GPG2Je2Or0GSG2Or0GPHEa
0t0GSHEa0t0GPGda0t0GSGda0t0GAG7G0G2Gz0GNGnNQ0GAG7G0IpGm0HrGna44G70GnQJG7G0GdGV4GJGdGV3KOGl2JEJOG71
G7G0JlRz3IoG0GdGV5GJGdGV1QJG7G0Io5G0GdGV6GJGdGV1G7OaHt0M5G7ISaLlGA0K0G5G9GnG70LwHJJKG9GnG70GnG7G9L
wNOHDGO0GZG7OaIf3Lc0GnQBG70GZQBG70LwHJJKG9GZG70GZG7G9LwNOHDGO0HJJKG9GnG70GnG7G9NOHDGO3LwHJJK0GZG7G
9LwHJJK0HNIDTaG70J0M0J7G71a5RJNG70GSHZIg0GPG2Ig0GSG2Ig0GPLWYr0GSLWYr0GaIJGz1aAUG0aAUMZ1GzG0GzMZ21I
pQC0M0J7G7G0VpMY0a5RJNG7G0VpIo0M0J7G7G0HEIo0a5RJNG7G0HEIo0KUG7ISHNUiJ7IV0J0KUG7ISHNUiJ7IV0GnIDG70H
aIDG70GZIDG70HNIDG70GAG8IDG70GfGpIDG70J7ItIDG71IVIDG70JNIVIDG71ItIDG70GnIDOjG70HaIDOjG70GZIDOjG70H
NIDOjG70OhIDHmGzG70MjIDHmGzG70GnIDG7GOGl0HaIDG7GOGl0GZIDG7GOGl0HNIDG7GOGl.02B760J7ItIDG7GOGl1IVIDG
7GOGl0JNIVIDG7GOGl1ItIDG7GOGl0GnIDG7G0GJHEGV0HaIDG7G0GJHEGV0GZIDG7G0GJHEGV0HNIDG7G0GJHEGV0HES1Rk0G
dS1Rk0GnIDG7H4GZIDG70HaIDG7GnGRHNIDG70GZIDG7H4GnIDG70HNIDG7GnGRHaIDG70GnIDT1NQ0HaIDT1NQ0GZIDT1NQ0H
NIDT1NQ0GnGPIpGSG70HaGPIpGSG70GZGPIpGSG70HNGPIpGSG70MjIDG8ZXG72KGZXG72GAZXG72JUZXG70Z4GA1G80aUaGA1
G80GTKJNQaKLMj0GZGPG7.02B970GWJjaDmGCbXA0abxaDTGnLTIF1cU9HaLTIF1aDTGZLTIF1bxtHNLTIF0GPGnLTIF1HaLTI
F1GZLTIF1HNLTIF0HNIDG7G0HrObGn6GZ0HaIDG7G0HrObGn6GZ0GnIDG7G0HrObHa0GZIDG7G0HrObHa0GnIDG7G0HrObHN0G
ZIDG7G0HrObHN0GPPyHNG6GnG74GZG72HaG6GnG74GZG72GnG6HaG72GZG6HaG72GnG6HNG72GZG6HNG70a3UG7GpGA3G82GfG
A3G82GAGf2G8Gf2GAGp2G8Gp0HaGSG7KOGlG0HEGl0GfIFIlGCUMKy0aAXGSa432G6GPa431GPa430TeKyG0HFHt0IpHt1KdHt
0GPGxSI1JeSI0HqGPYr0HEGPaVb0GPaVb1HZOeHQSI2POHQSI2MKHQSI2LWHQSI0aUWG3GE0JUGqGPGz0KGGqGPGz0HFGTK2GP
a0Z0IWHFGTK2GPa0Z0GSGTK2a0Z0IWGSGTK2a0Z0Gxa38Se0cuJG50a7hGL0aX4G3GE2GN2GT2GX0cqG0cPO0auR0bma0cNH0c
BZ0GSLAccd0GPJeIUJD0aDZHFLAau50bLd0bh80d9h0bv20atN0arK0d2j0cOf0GAGqGPIg0G8GqGPIg0IgG0GAGqGP2G8GqGP
0GnQJG7G0HQa040HaQJG7G0HQa040GZQJG7G0HQa040HNQJG7G0HQa040bXtG3GF2GE0cYP0cVnaIBGWcxw3cEx3cR93b0M3cc
j3cqN0K0G5G0VsGG0cuRGW0ccnGW0a0kGW0cLsGW0I4G8Iu0biFcM6GW0aOGG4G1a5P3a5m3aDv3a7d3a6q3aEP3aEZ3a0n3aE
X3Vw3GYVw3GK3a6o3a8K3a913YW3a9o3aAN3aAx3aBa3aCJ3aDi3aDp3a7O3a7p3aVt3JB3aC43Um3XM3IA3QN3a4v3aEK3aaL
Gs3Ju3G2Km5G0Io3KL3VuG2Km3OIKm3VuOIKm3Tp3Vx3aZV3acYGC3aRRYW3aJtXM1G2G1a5P3a5m3aDv3a7d3a6q3aEP3aEZ3
a0n3aEX3Vw3GYVw3GK3a6o3a8K3a913YW3a9o3aAN3aAx3aBa3aCJ3aDi3aDp3a7O3a7p3aVt3JB3aC43Um3XM3IA3QN3a4v3a
EK3aaLGs3Ju3G2Km5G0Io3KL3VuG2Km3OIKm3VuOIKm3Tp3Vx3aZV3acYGC3aRRYW3aJtXM0IxG4G1GjG0GJGl1G2G1GjG0GJG
l1G4G1GjG0GbHJ3HoG0GV3GcG0Io1G2G1GCG0GV3HSG0JHGV1G4G1HVG0Jd1G2G1HVG0Jd1G4G1HRG0Jd1G2G1HRG0Jd1G4G1H
lG0Jd1G2G1HlG0Jd1G4G1K93HBG0GU3HqGC4K91G2G1HTG0G8GU1G4G1HyG0GU1G2G1HyG0GU3HTG0Lo1G4G1GqHV1G2G1GqHV
3cmcLL3GHG0aV83HqGcG0Io3GDG0HXHLMZ1G1G2G4HqGH1UYG2G1I60KYG1G4HT0IxG4G1GeG0WkIo3HlG0WkIo0LHG4G1aHb1
G2G1aHb1G4G1adZ1G2G1adZ1G4G1Lr1G2G1Lr1G4G1aKz1G2G1aKz1G4G1a0q1G2G1a0q1G4G1aaB1G2G1aaB1G4G1a511G2G1
a511G4G1aOn1G2G1aOn1G4G1abv1G2G1abv1G4G1aPZ1G2G1aPZ1G4G1a1p1G2G1a1p1G4G1aRS1G2G1aRS1G4G1Kh1G2G1Kh1
G4G1KD1G2G1KD1G4G1a201G2G1a201G4G1GD1G2G1GD1G4G1JR1G2G1JR1G4G1L31G2G1L31G4G1aC91G2G1aC91G4G1N41G2G
1N41G4G1Wq1G2G1Wq1G4G1Q11G2G1Q11G4G1a1s1G2G1a1s1G4G1NH1G2G1NH1G4G1a2s1G2G1a2s1G4G1SNHC1G2G1SNHC1G4
G1IrLHK81G2G1IrLHK81G4G1RPa0q1G2G1RPa0q1G4G1SNa1p1G2G1SNa1p1G4G1SNKD1G2G1SNKD1G4G1RPKD1G2G1RPKD1G4
G1IrLHa2s1G2G1IrLHa2s1G4G1WV1G2G1WV1G4G1OiTE1G2G1OiTE1G4G1IrLHTE1G2G1IrLHTE1G4G1IrLHMn1G2G1IrLHMn1
G4G1aHXW51G2G1aHXW51G4G1SNVq1G2G1SNVq1G4G1IrLHVq1G2G1IrLHVq1G4G1IrLHGs1G2G1IrLHGs1G4G1aRAGs1G2G1aR
AGs1G4G1IrLHaOu1G2G1IrLHaOu1G4G1IrLHTv1G2G1IrLHTv1G4G1IrLHVg1G2G1IrLHVg1G4G1IrLHaLq1G2G1IrLHaLq1G4
G1IrLHUR1G2G1IrLHUR1G4G1IrRrUR1G2G1IrRrUR1G4G1IrRra2c1G2G1IrRra2c1G4G1IrRrOV1G2G1IrRrOV1G4G1IrRraE
31G2G1IrRraE31GWW02KhL32JRL32ciw2N4L32a1sL32URaC91G4G1RPTE1G2G1RPTE1G4G1RPVg1G2G1RPVg1JiKDG92chhau
J3aRb1G4G1aJOW51G2G1aJOW5.02CF91IrRrIzIC3a6kKkGL3bp4KkGL3aDwVN1MXGFGq1IzIC1c7pVN0XpG2G1KA3a0A3Tt3a
0j3J43a4m3Zr3a4J3Il3W13a293MD3YY3IU3a2x3a523WS3WW3Ue3TV3a333a1r3a1H3Yy3Kb3a0R3Ns3Y43a0V3a0N3a4t3a1
j3a1P3JX3Xw3LG3Vm3a1W.02D273X2.02D2D3Uv.02D300coyG1H92d6d2d6e2d6n2d6o2aIvaHKaEH2aEH2d6g2d6j2d6h2d6
i2d7V2d6l2aEJ2UnaEJ2d6s2a4u2aIvaHKa4u2Una4u2d6q2X02aeF2UnaeF2aeJ2UnaeJ2Kl2aEL2arnaEL2UnaEL2d6t2aeG
2aeH2Und6p3Ps2aeI2Ju2aeK2d6x2aEG2UnaEG2av5aEG2d6y2d702d6z2S82d712d6f2d722d742d752aeM2aeN2cn6aeN2d7
92Nn2KL.02D6F1KYG1bwRGL1KTGL.02D7F1LfTy0a0zNMbzG2c7H2cUc2ch32cem2b0i2cpa2b7h2cEg2cGw2KoYh2dAV2bQc2
bOO2bqj2coL2b4x2cNF2cOJ2beX2beb2bea2beZ.02DA02JZ2aCY2aCW2ci32ciI2aaU2aCX.02DA82b3N2b3h2b3f2b3O2b3Q
2b3P2b3g.02DB02a542af72af42dAw2dB02af32af6.02DB82b3S2b3e2b3c2b3T2b3U2a5y2b3d.02DC02cRO2cRY2cRS2cRP
2cRR2cRQ2cRT.02DC82a8k2bw32bw02bvx2a252bvz2bw2.02DD02aeC2d6I2d6A2d672d682aeD2d6B.02DD82bgb2bgj2bgh
2bgc2bgf2bge2bgi.02DE00JiOLG1Np3Nm3Mr3Lp3No3M73Gv3Lq3Mm3J43GD3JB3Nx3Q03Jx3Gs3Oc3LR3IA3aBu3Tp3bXz3G
C3ND3a6n3a9XWr3S83Ju3NYGC3ImKm3OIKm3NYOIKm0G8IuWhSo2JlWhSo0GAWhGu0G8WhGu0GAJlWhGu0G8JlWhGu0LCaPsSo
1JlaPsSo0JlaDVSo0GAaDVGu0G8aDVGu0LCGx0GALCaVlGu0G8LCaVlGu0bWpbL10aAd0aNVaAd0I4aNVaAd0bmc0JlcJ60HNa
Hj0HaaHj0JlLWIu0GJO4PW0IOY20Ypa5h0PWG0I50HJG0HLG90GAHXaWDGu0G8HXaWDGu0HJG0GMG93GG0GAGdGlG0a3J0G8Gd
GlG0a3J0JUGAGqGu1G8GqGu0KGGAGqGu1G8GqGu0GARyGBGu0G8RyGBGu0GAGJJQ0G8GJJQ0GEH0H4GFGMJM0GFGMH4GEH0JM0
K3GTGMJM0GXGMGL0I4KkGL0GdHJ0HLOx0OCKTGbGM0HqIZ0LCGM1IZ0HqPl0VHG0GAaOT2G8aOT0HqVH0JUGqLYG50csQJO0co
RJO0cj0IzIC0GdGgH00WyGdI80b2y0GJPW0I4IZ0GJbzoKaGL0JOG0GAaDr0GJaCnGL0IOHXW23G0W2G90HXW22G0GM0GJciiI
Z0JlLa0JEVH0aTHIZ0cLfGL0cPibXCGL0bL0aDwVN0JDcM3G0G8aKe3GAaKe0ac6G5G4Ol0aTHL7GL1KkGL0GAGxGuG0GV0G8G
xGuG0GV0GAGxGuG0GJGV0G8GxGuG0GJGV0JUGqGAJQ2G8JQ0KGGqGAJQ2G8JQ0O4PW.02E800XPa3KZ32a632UOGF3GE3GN2Ne
2Ky2aCu2YEGF3GE2aLo2aBl2G2GF3GE2aRIGF3GE3GN3GT2a412aD92aa3GF3GE2KfGF3GE2KP2aBN.02E9B2b502QH2LA2aLP
2aTv2b5g2PAGF3GE2Q32aWHGF3GE2a3wGqR5aca2XS2VO2aPy2a5eGRa652RV2aCSGF3GE2a5V2aC82NraC82a9vGF3GE3GN3G
T2aTP2aBv2a3N2aN22Ir2a5kGF3GE2a2M2aTu2aOOGF3GE3GN2a4Q2a662ItGF3GE2NrUP2a3wK42K42NrUX3LZ2a1B2NraJs2
a3wa4n2a4nGF3GE2aKM2Nra1L2HrGF3GE2NrHr3aNr2aTxGF3GE2UL2SF2NrabXa8r3Lt3QL3a7I2a0oGF3GE3GN2Nra0o2MY2
NrRf2a0H2a7a2NrQf3a0G3Qv2a3waE63Zm2Nra7P2a1hVX2NrVX2a1ha4X2Nra4X2a1hSQ2NrSQ2ZV2a1hZV2NrZV.02F000br
za3KGF2I82GM2Ni2UO2GU2GE2aRi2MD2bxw2aMp2Gh2GpKy2a6H2Sc2aCu2HmKy2YE2aB32d502aCT2G8HmKy2bisa702Hs2aL
o2aBl2a632aBA2arf2ME2a702OQ2cY32Om3cgn2bYN2OI2TY2a602cUm2bov2G22aRI2bL32cht2Sq2cUO2aEC2cJf2acs2a6t
2J0aD92Jla632HrcjM2GERd2ceq2V62aa32b1K2aCZ2Kf2bhI2aLx2KP2a5h2aBN2LX2bQ42a5N2Gx2Id2QH2aYy2LA2R52bwU
2IC2aLP2d462MIId2b802aNh2aKO2aaa2PA2Q32b5o2aNA2GJHt2GqR5aca2aZx2ba92XS2VO2cPE2aPy2aTL2aDH2aaw2byc2
aDt2aNF2a5eGRa652cfm2JlaD12GS2cgU2Lh2RV2aaI2G72aCc2aCS2acM2bfr2b3L2cim2a5V2Z52aC82aPz2a9v2aBv2a142
Ir2G62cOA2VR2a5k2a2M2c6x2aZ62au02aTu2Ul2cJv2aJM2cj72b7s2aOO2a4Q2bpH2aJI2a4na702a662It2UP2K42UX2cwP
2azc2a352aIX2LZ2P12cVb2a1B2aJN2aJs2b0Y2c7o2a4n2aKM2a4r2bQF2cxx2a1L2Hr2aNr2aTx2cgZ2J0abRa0G2UL2SF2d
542Gw2a8r2abXa8r2bxq2NL2Lt2QL2a7I2a0o2MY2bbi2Rf2a0H2ZN2Tu2bab2cX8a4r2aJu2a7a2Qf2a0G2Qv2a6a2aE62biH
2Zm2c6s2GP2bXL2a7P2cqc2Xb2a3O2WM2VX2a4X2SQ2ZV2aNO.02FF00NzbP7NSGAGOG83G9GOGG3GAGOGbG6G83G9GOGbG6GG
3Izaas3aasKOG95GG5GA5HkGA6G85HPGA3aAV.030001M11IZ1IzIC0bQIGL0Txbp5aaXGW0NzQmGL1XQGL1ITHg0GAIuGu0G8
IuGu0GAGJIuGu0G8GJIuGu0GAKJGu0G8KJGu0GAGSKJGu0G8GSKJGu0GAGPRmGu0G8GPRmGu0a39GL0be7GL0GAN6LZGu0G8N6
LZGu0GAGSRmGu0G8GSRmGu0GAGSN6LZGu0G8GSN6LZGu0GAGSGxGu0G8GSGxGu0M5JO0I4GJPhKaGL0GJPhKaGL0HXGJPhKaGL
0a39GLGw0aOlQtGF2GE2GN2GT2GX2Gg2Go2Gh2Gt0NzaReHxGL1P3HxGL1a6dHxGL1bXYHxGL0QjIBGMHxGL1GJGMHxGL0R9JO
0GdbrwZ3GL3G0R8NLGL3GLHkGq3G0R8NLGLHkGq3GLHPGq0Ipa39GL0Nza4MI8VaKTGW0aOlQtHs2Ja2M20GdNzQmGL0c4TGL0
aAhasWGL0NzZcSe1GqORM1.030410VnG1G2GC2GC2G2GK2GK2G2GB2GB2G2GH2GH2G2GD2GD2Gv2HU2MC2Ls2MJ2NW2MB2Qi2L
J2Om2HH2J92Lm2RC2MF2Pu2Ly2M72LM2Pt2HI2HM2N52MW2G2LO2LO2NT2Jx2Lp2GO2MI2H82KD2KK2KZ2JY2Gs2He2Gy2Kq2N
q2JR2OS2MU2P02JX2Np2JB2L82PJ2N02H72Kh2Jm2KX2Lu2G2H92H92G2Ju2Ju2G2KL2KL2H22NI2Lx2N12L32G2IH2IH2M62L
G2Ld2H12Uq2G2Gv3MB.030990JiY8R8NLGL2aBpNLGL0Y8R8NLGL1aBpNLGL0VnQmGL1R8QmGL1Knd7z0Y8GJPW0Q6G1G2GC2G
C2G2GK2GK2G2GB2GB2G2GH2GH2G2GD2GD2Gv2HU2MC2Ls2MJ2NW2MB2Qi2LJ2Om2HH2J92Lm2RC2MF2Pu2Ly2M72LM2Pt2HI2H
M2N52MW2G2LO2LO2NT2Jx2Lp2GO2MI2H82KD2KK2KZ2JY2Gs2He2Gy2Kq2Nq2JR2OS2MU2P02JX2Np2JB2L82PJ2N02H72Kh2J
m2KX2Lu2G2H92H92G2Ju2Ju2G2KL2KL2H22NI2Lx2N12L32G2IH2IH2M62LG2Ld2H12Uq2G2Gv3MB2Is2S62Nm2R71GbGM0Y8a
XLNLGL0Q6QmGL1R8QmGL1KnaQv.031050aJTG1Hu2Ho2HB2IK2Hb2HS2H12Gj2HO2HR2HV2I62Ie2Ht2d9k2aK42UQ2Gc2Hl2H
j2Ge2GC2GD2GH2Qd2Hz2RQ2I72Sz2KA2J42PD2PQ2Nx2GK2GB2Y32HT2Mc2bfR2a812GDG0GMG92Ye.031310QjG1Sj2a472a8
Z2St2a2d2a2e2TS2a4A2T92a3W2a3X2a3Y2a3Z2aBW2aBV2a3V2Sp2T72a482a342TG2a492Rg2RM2a462SJ2Si2TO2T52Sb2G
C2KF2H92Zl2Xg2GH2aEM2Nn2GD2IH2aE02Jf2KL2GB2aE52LG2M62Ju2RU2Kl2GK1RX1G1aCV2aA32aA22aUu2aYH2aBX2aYK2
aYJ2aYM2a9S2a9T2aTb2a8M2aWm2aAt2aWo2aAs2aAr2aWp2a8O2aQP2aCB2aZn2aCD2aCC2aCA2aAc2aCU2aEO2aeQ2aeP2a8
N2aaS2aEN2aeV2aeW2aeU2aeb2aea2aeZ2aI02atg.031900NzaHlbyzGL2LwGL2GFGL2GEGL2GNGL2GTGL2JUGL2GbGL2KGGL
2RYGL2UOGL2P8GL2a1DGL2a1TGL2OQGL2MDGL0aJTG1MU2RC2Sf2NW2JP2a712J82aVo2a1e2at42bpC2adK2Rh2cBu2arx2au
m2QQ2Ov2aVn2bpD1GIG1Ho3HS3HR3HV1G1bec2a8x2af21GIG1HO1G1bgX2a8h2Jf2PC0XPGVHS2d4I2d5e2b1y2aat2bmi2bm
e2a1Y2bmh2clZ2bmf2bmj2blj2bmg2bmk2H12HV2Ge2Ho2aaD2Hb2aPX2aP02clQ2ckf2a4B2ce42cMC2cQA2cpS2cla2ckY2b
mZ2bml2cMt2Ie.031F00Q6G1G2MJ3Lm3MF3GO3KK3Gs3Kq3OS3JX3L83Jm3H23NI3Lx3N13L30a2yQjSj2St2TS2T92Sp2T72T
G2Rg2RM2SJ2Si2TO2T52Sb2SjGC2StGC2TSGC2T9GC2SpGC2T7GC2TGGC2RgGC2RMGC2SJGC2SiGC2TOGC2T5GC2SbGC2RMGB1
a8eNScJV3GDOS.032201a1dGF2GE2GN2GT2GX2Gg2Go2Gh2Gt2Hs2LA2Q32PA2aEB2aTS2OQ2QH2aCb2aOp2aa52YX2aaJ2aNH
2aKU2aRC2cTM2a5u2aag2aap2aMq2aY92aHf2baU2N22aZ62aY00Ipa1dKk2bto2aBk2aQv1ITHsIUGPGx2JaIUGPGx2M2IUGP
Gx2MoIUGPGx2KBIUGPGx2NJIUGPGx2K5IUGPGx2NvIUGPGx0aWFG50IpITJaGF3GE3GN3GT3GX3Gg3Go3Gh3Gt2M23GF3GE3GN
3GT3GX1QjSj2St2TS2T92Sp2T72TG2Rg2RM2SJ2Si2TO2T52Sb2SjGC2StGC2TSGC2T9GC2SpGC2T7GC2TGGC2RgGC2RMGC2SJ
GC2SiGC2TOGC2T5GC2SbGC1a8eNSb4C3bqv1QjRgGB0a8eaaXGW0Ipa1dGF2GE2GN2GT2GX2Gg2Go2Gh2Gt2Hs2LA2Q32PA2aE
B2aTS2OQ2QH2aCb2aOp2aa52YX2aaJ2aNH2aKU2aRC2cYN2Sn2Vb2ck72bYQ2aXI2aug2bpk2N22bKw2bL42I22Ii2HX2GA2G8
2c542cTD2aag2aap2aMq2aY92aHf2a2f1ITM2Gg3Go3Gh3Gt2Mo3GF3GE3GN3GT3GX3Gg3Go3Gh3Gt2KB0Nza4MGWJjbpy4baL
4c4B4atS4aT84bqy4bqx4aul4cco4cJL4cEw4bOe0GxaP01bXs1a750byqbyUG50IpQ6GC2GK2GB2GH2GD2Gv2MC2MJ2MB2LJ2
HH2Lm2MF2Ly2LM2HI2N52LO2Jx2GO2H82KD2KK2KZ2JY2Gs2Kq2OS2JX2L82H72Kh2Jm2KX2Lu2H92Ju2KL2H22NI2Lx2N12L3
2IH2M62LG2Ld0GxaMtYXcT81atI1au91at71apa1bpA1bpQ1cuW1bY91bWs1cJi1cJl1brp1bs61bs91bdZ1bdU1bf81bfA1bw
41bfG1btr1bts1btt1btu1bgO1bgP1bvY1bvV1bsb1buk1buf1cXB1cXe1cgF1cck1ccl1bNW1bPA1bQp1cpi1cAA1cEv1bhH1
cKl1cKm1ayQ1cNP1cNh1cNg1b0Q1blt1blv1b1q1bm41biC1aWa1cMU1biN1cMX1cMP1azj1cOQ1b0r1a7t1cOX1bkn1bkl1c3
g1c3j1c3d1c4K1c421c6n1c731c741a9P1c591c561d6a1d6c1d8L1cUM1cUL1cVj1cVp1cTG1cTH1d400Nza4MGWJjaPNHg5G
F5GE5GN5GT5GX5Gg5Go5Gh5Gt5Hs5PP5Od5TP5SY5Q25Qy5TD5RR5Su5Ja5acx5aDl5acy5acw0Gxbli1HM1I71Gl1aVv1cMB1
bQZ2K32XT1Y31aMtYXbiB3clG3cmd3c5A1bL21Gyasg1H81JmGC1H71Gv1bsP1a9H1bde1b2j1bsQ1cMs1cBg1JmIK2HO1c5l1
aQa1aPX1btQ1c6K1bez1cok1JmGj1c781bQS1buF1bbH1cEN1JmHB1a2R1a681a1w1a2RK31a68K31HBK31a1wK31a2RXT1a68
XT1HBXT1a1wXT1HBH4Ge4K31Gy1YG1aTz1bfn1aXs2H4Ge4K31cPR1cFT1JmGe1c8C1cQ21aAG1JmHT1YV1bvf1YVa9P1cQ31c
Ge1JmHy1a9g1a8h1a9ga9P1HRa2p1HBa2p1QQ1b141aJx1aJy1HjH4aQa1PN1aLD1bga1Gs1a1Y1Il1a1u1a1wG41bv51bzE1b
zF1bzM1c0A1a9HG21c6o1c7c1cMu1aX51cOu1cOw1ci01aCo1d411HTH4HB1GCH4HB0Nza4MGWJjaLCGF5GE5GN5GT5GX5Gg5G
o5Gh5Gt5Hs5PP5Od5TP5SY5Q25Qy5TD5RR5Su5Ja5acx5aDl5acy5acw5a4h5csN5csM5csK5csL5M25coI0GxTr.04DC00biP
JjJpbLJa1T3cSsOQ2bPoLQJpazm2d81bbL2aE12bKZ2Jpatu2Voa4U2G2abU2cqM2aAk2cio2baP2VkaXB2c7N2bXZ2aNQ2aEC
IUJpbOd2atQ2bKh2aJ5Oa2aOM2chjatJ2Z42bpE2VkabU2MEVE2VkaXH2Jpar3PA3b5vQ32bp62bVT2cTX2VkaB32cPG2aL8GR
JpHF2JpaN82aAQ2cJE2bOs2aLR2a842b1D2b7yGOaTJ2a7Ta4U2cPvadM2cJw2Jpd4C2cTc2JpaJu3atxaDB3aQTcj3Sq2bPE2
Jpc4Ic3f2ar22Jpd3p3be2QL3bqqaRH2bQA2byp2aPocrA2G2aXH2area6A2azka6A.0A0000KlNMa8E2aPv2GK2bpY2boF2bo
T2ND2boE2LQ2aIJ2GC2aHq2cuY2adL2cuX2a2t2a2u2GD2aAO2a102GH2QM2aJ42b0Z2Nq2b0O2b0G2b0H2b0E2b0F2a5X2az6
2He2ays2b1j2b1h2b1i2b0u2Ky2PJ2b0n2azx2Np2azv2QX2b1w2MU2b1l2b1o2QW2b222b242PK2b1z2b212b202aWx2cNw2J
R2aWs2cNf2aWj2cNU2cLz2cM82Gy2Nd2cPn2cPl2cPm2a3A2cOr2N02aB02aBE2cQ02P02aXT2cPu2cPp2aXX2cQ92cQ52cQ62
cQ82cQ72azK2azL2aIf2azJ2azH2azI2azF2azG2azA2azB2Tf2az92azR2azP2azQ2azN2azO2aIg2azM2azE2XE2azD2aIi2
azV2aIh2azS2azU2azT2azY2azZ2azW2azX2cAY2cAZ2cAU2cAX2cAW2aUN2cAV2cAR2cAS2cAP2cAQ2cAc2cAd2cAa2cAb2cA
j2cAk2cAf2cAg2cAi2cAh2cAp2cAq2cAl2cAm2cAo2cAn2bjq2bjr2bjl2bjp2bjo2bjm2bjn2bji2bjj2bjg2bjh2bjy2bjw2
bjx2bjt2bju2aPC2bjs2bk22bk32bjv2bjz2bk12bk02bk82bk42bk52bk72bk62a9V2c762Kh2c712c6i2c6X2c6Y2c4U2c4a
2H72YO2c8c2c8d2c8Z2c8b2c7t2c842Lu2aTt2c5c2KX2c8m2c8q2Jm2c8e2c8j2c8g2c8w2c8x2aUA2c8v2bau2bay2Q12bam
2baE2a7B2JW2baA2aNY2PU2bbR2bc32bc42RZ2bbz2bc02aNh2bcD2bcE2bcA2bcC2cy62cyC2S62cy12adb2cxv2cxp2cxq2c
wZ2cwc2Is2cwS2cyR2cyU2R72cyQ2cxh2adX2d2m2d2n2Uq2d2k2d2l2adi2d2v2d2w2aDz2d2s2d2u2d2t2bQH2bQP2MW2bQ2
2bPk2a6h2bPi2aL92bO02HM2a6V2bVN2bVM2GM2bV52MI2bQn2bPF2Lp2bP02bVX2bVZ2NT2bVO2bVU2bVR2ac72cpL2N52Ob2
cox2Wo2cow2abZ2cn72HI2cms2acq2cs32cs12cs22acH2cq62GO2JU2cnt2Jx2cng2csB2csF2LO2acr2csA2ZU2bOM2bON2a
LM2bOL2bOK2bOI2bOJ2bO92bOA2J32bO82bOU2bOS2bOT2bOQ2bOR2a6Y2bOP2bOD2aLJ2bOC2bOX2bOY2aLN2bOV2bOW2aLO2
cB82cB92a9r2cB62cB52cB42cAv2cAw2WJ2a9p2cBD2cBE2a9s2cBC2cB12a2Z2cAx2cBJ2cBK2a2a2cBG2cBI2cBH2bkM2bkN
2bkG2bkL2bkJ2bkK2bkH2bkI2bkA2bkC2a7s2bk92bkT2bkS2bkP2bkQ2bkO2bkF2bkD2bkE2bkU2cDM2cDO2KD2cDJ2cD52cC
z2cD02cAL2H82cAD2cGX2cGV2cGW2Id2cEz2JY2cEq2cBf2KZ2cBX2aVK2cGd2KK2cGY2cGa2cGZ2bjL2bjM2a7r2bjK2bjJ2b
jH2bjI2bjB2bjD2aPB2bjA2bjT2bjR2bjS2bjP2bjN2bjO2bjG2bjE2bjF2bjX2bjY2bjQ2bjU2bjW2bjV2bjd2bje2bjZ2bja
2bjc2bjb2bz42bz82Mw2a8z2bya2byb2aRj2byZ2bxX2bxe2H62a8n2c022c032c002c012bzi2bzp2ML2bzd2byK2O22byA2c
082c092LV2c042c062c052c0J2c0K2a982c0H2c0I2aSB2bfI2bfJ2Ls2bfB2bf42bf52bf22bf32bdb2bdd2HU2Xm2bgL2bgM
2bgJ2bgK2aOL2bfm2Om2bfe2be62be82Qi2aO12bgU2bgV2NW2bgN2bgT2a1O2aQk2bu12MC2aQj2bth2btd2btf2bsB2bsN2G
v2aQN2bvR2bvO2a8g2bul2bup2LJ2buh2U12bsz2MB2bsj2a212bvd2MJ2bvS2bvZ2NF2beL2beM2aO62beK2beI2beJ2beC2b
eD2Vh2beB2beQ2beR2aOA2beP2beN2beO2aO72aO82beG2beH2a7Y2beF2beV2beW2aO92beS2beU2beT2c662c652c5o2c5p2
c5m2c5n2c6D2c6B2c6C2c682c692OU2c672c642c622c632c6H2c6I2c6A2c6E2c6G2c6F2aPS2bmS2bmM2bmR2bmP2bmQ2bmN
2bmO2bmH2bmI2bmF2bmG2bmX2bmY2aPU2bmW2bmU2bmV2bmT2aPT2bmL2bmJ2bmK2cCG2cCE2cCF2cBo2cBp2I92cBm2cCh2cC
i2cCg2cCY2cCZ2UE2aUq2cBt2aUe2cBr2aP92biz2Xw2Tv2bhn2Gs2bha2bm22bm32bm02bm12Xz2blg2L82aPJ2biO2JX2biI
2d3y2adp2IH2adk2d5D2ae82d5C2d4z2Ld2d4r2d4H2LG2d4E2dAQ2dAR2RC2dAN2dAJ2dAH2dAI2d9Z2d9b2J92d9U2dAh2dA
f2dAg2aex2dAY2Pt2dAX2d9j2M72d9g2dAj2dAk2Pu2aez2dAi2af02dAu2dAv2af22dAr2dAt2dAs2b5d2b5h2a0U2aKK2b5S
2b5W2b5Q2b5R2PL2b3M2II2a0L2bLb2bLa2aKl2bL62bLE2PN2bKu2b432RI2b3y2a6P2bLn2a6L2XU2bLj2bLe2aKu2bLz2aK
r2aKt2bLy2bLw2dB72dB82af42dB62af52dB52dB32dB42dAy2dAz2a542dAx2dBA2af62dB92dB22af32dB12dBG2af72dBD2
dBF2dBE2dBM2dBN2dBH2dBJ2dBL2dBK2cHM2cHN2cHH2cHL2cHK2cHI2cHJ2cHC2cHD2aAL2cHA2cHT2cHS2cHP2cHO2cHG2cH
E2cHX2cHQ2aVZ2cHW2cHV2cHc2cHd2cHY2cHZ2cHb2cHa2cgI2Gg2Lm2cgE2cfr2cfo2cfq2aBh2cXt2HH2aYv2ckF2ckD2ckE
2aCP2chO2LM2chG2cd22Ly2ccm2ckS2ckU2MF2ckG2ckP2a4F2clO2clP2ckg2clH2clM2clI2ciR2ciS2aCW2ciQ2ciP2ciN2
ciO2ciG2ciH2JZ2ciF2ciU2ciV2aCX2ciT2ciK2aaU2ciJ2ciX2ciY2aCY2ciW2cid2cie2ciZ2cia2cic2cib2d9o2d9p2M82
d9n2dA22dA02dA12d9y2d9z2aEa2d9x2d9s2d9t2No2d9r2dA62dA72aEb2dA32dA52dA42dAD2dAE2dA92dAA2dAC2dAB2aK8
2b4L2IM2b4G2b5C2b5D2b5A2b5B2b542b552RL2b512b4b2b4c2LR2b4V2b5H2a0T2b5E2b5G2b5F2b5O2b5P2b5K2b5L2b5N2
b5M2cUw2MO2cV62cV52cV12cV22aYd2cV02cUy2cUz2aYb2cUx2cVA2cVB2cV42cV72cV92cV82cVG2cVH2cVC2cVD2cVF2cVE
2cF62cF72aAA2cF52cFF2cFD2cFE2cFB2cFC2cF82cF92cFL2cFM2cFG2cFI2cFK2cFJ2cFR2cFS2cFN2cFO2cFQ2cFP2aZK2c
eO2IA2ceG2cfP2cfN2cfO2cf42cf82QF2aZQ2aZM2cee2K62ceV2cfS2cfU2OX2cfQ2cfR2aZW2cfc2cfd2aC62cfZ2cfb2cfa
2a3O2cSe2H22aBN2cVh2cVf2cVg2cUs2cUv2L32cUp2cTd2N12cTI2cVo2cVq2Lx2cVi2cVl2cVk2cW22cW32aYj2cVz2cW12c
W02bqM2bqN2Sf2bqL2bqI2bqJ2bqG2bqH2br22br32br02br12Sg2bqp2Q52bqn2br82brA2Tz2br42br72br62brF2brG2brB
2brC2brE2brD2cQp2cQq2Yz2cQo2cQl2cQm2cQj2cQk2cRC2cRD2aBK2cRB2aXd2cQv2a3I2cQt2cRI2cRK2Z02cRE2cRG2cRF
2cRX2cRZ2cRN2cRU2cRW2cRV2bqU2bqV2aQ42bqT2bqR2bqS2aQ52bqQ2bqb2bqZ2bqa2bqX2bqY2aQ62bqW2aQ82bqf2aQ72b
qc2bqe2bqd2bqh2bqi2aQ92bqg2cDc2cDd2Yd2cDb2cDZ2cDa2cDW2cDY2cDi2cDh2cDf2cDg2aV12cDe2cDn2aA72cDj2cDm2
cDl2cDs2cDt2cDo2cDp2cDr2cDq2aVX2cGu2OV2aVW2cGp2cGq2cGn2cGo2cH52cH32cH42cGz2cH02Rs2aVY2cH72cH82aAK2
cH62d5o2d5p2OE2d5m2d5k2d5l2d5i2d5j2d5z2d5y2d5u2d5v2aeA2d5r2d6H2d6J2d662d6E2d6G2d6F2aEQ2d7i2Kl2d7h2
d7c2d7d2aeT2d7b2d8T2d8U2d8R2aee2Zp2d842KL2d7y2a4y2d8Z2Ju2d8V2d8X2d8W2d8f2d8g2aEW2d8c2d8e2d8d.0A490
1a3KaXd2Mw2aQk2aVW2aKt2aCW2aO82aO12Kh2aPS2aSB2aIi2aTt2KL2aBE2aPU2abZ2HU2aez2aKu2aLO2QW2aOA2aVY2LO2
aAO2aQ82aex2aXX2aPC2aEQ2adi2aC62adX2J92Q52aVZ2aQ92aOL2aQ52Ld2NT2aZW2aRj2aKr2aKl2aKK2aPT2aZK2af02aZ
Q2LR2af52aUN2MB.0A4D00aRqG1He2Gy2In2HM2HI2Ia2HU2Gv2IP2IG2II2IM2Ok2Kc2OB2H72H82H62HH2M82J92I92Gs2OD
2Re2JW2IH2IA2H92J52GC2KF2GH2RU2GK2GD2GB2Ln2aDn2Jf2Hxa9jN53H8N03a9jaKs4PJ4H84bq91JMIZ2IzIC0cwMNMJP2
bWt2a1U2a4o2d4A2Ru2b042V22a2K2aQy2c5t2aNt2Tn2TX2Wl2ZP2bPP2bPS2a2A2Z22VI2a9q2UP2a3o2Zq2a532aK02Vy2Y
c2X12a8S2aUh2Xn2a9N2a9t2aVT2GK2Il2Kq2aP62M62d4X2JR2b052Nq2a9I2aQz2c5w2aNu2Q12S62N52Uj2bPX2bPT2Mw2N
I2MW2a9r2Lm2Wb2RC2aEY2a0U2Sf2Yd2Kl2MC2aUj2Ls2Kh2KD2OV2GC2KA2cBk2Gs2aOj2IH2d3m2Gy2JJ2He2YR2YG2bur2a
TU2a7W2JW2Is2HI2Ia2J62bPQ2H62H22HM2WJ2HH2IA2J92M82II2IG2aUx2H92Gv2W12Yb2HU2H72H82IN2J82cJm2Xy2Zk2d
4q2Yw2b062aJP2a9L2aR02c602aNw2a7L2adg2Wp2aD72bPZ2bPV2W92aYY2aLw2aUQ2ZJ2aC12aew2d9w2a6G2aQB2aV22a4x
2YF2a9z2bfc2a9Z2aA92cGy2GB2TV2OS2aPQ2QM2d5A2P02b072MU2a9M2aR12c612a7X2RZ2Uq2LO2aDA2bPb2bPW2LV2Lx2N
T2a2a2MF2OX2Pu2aEb2a6L2Tz2aA72Ju2MJ2aA02NW2Jm2KK2aAK2GD2IU2aUp2L82a7t2Ld2aEA2N02aIy2PJ2a9K2a1y2c5y
2aNv2bdl2PU2R72GO2Nl2aLb2bPU2ML2L32MI2a9s2LM2QF2Pt2aEa2PN2Q52aV12KL2LJ2a9y2Om2Lu2JY2Rs2GH2J42aUf2J
X2aOv2LG2d4D2JB2a0F2Np2a2J2aQx2but2c5s2a1G2bdh2PS2Nm2Jx2Jp2XY2bPR2O22N12Lp2a2Z2Ly2K62M72No2RI2PX2S
w2Nn2MB2a9w2a9x2Qi2bdx2KX2KZ2aAI2Mc2a2C1IZ1IzIC1KkGL1NMaUPJW3Gv3ZJ1GWbaN2bsa2cpA2aUv2ayo2a132Ua2a6
T2bQm2bvN2cpq2bQb2bqm1HKHg2GF2GE2GN2GT2GX2Gg2Go2Gh2Gt1NMaUPH73MI.0A6400OLG4G1aeq1G2G1aeq1G4G1a0n1G
2G1a0n1G4G1I4SS1G2G1I4SS1G4G1KR1G2G1KR1G4G1a6n1G2G1a6n1G4G1a9XWr1G2G1a9XWr1G4G1aJeJo1G2G1aJeJo1G4G
1LvZo1G2G1LvZo1G4G1QNG0PGZo1G2G1QNG0PGZo1G4G1NYS81G2G1NYS81G4G1I4Ju1G2G1I4Ju1G4G1NYGC1G2G1NYGC1G4G
1JzImKm1G2G1JzImKm1G4G1aJBKm1G2G1aJBKm1G4G1NYJzImKm1G2G1NYJzImKm1G4G1X21G2G1X21G4G1I4Oc1G2G1I4Oc1G
4G1OYLp1G2G1OYLp1G4G1OYLq1G2G1OYLq1G4G1OYMm1G2G1OYMm1G4G1a2TGD1G2G1a2TGD1G4G1aJ3GD1G2G1aJ3GD1G4G1G
Ja2TGD1G2G1GJa2TGD1G1c8TGD0JiOLd2y2HsUBG52GrUBG52H5UBG50cgaJC0JiOLG1aDoND3GK3Kl3GB3QkG53QN3OYG53Jo
2W22aWJ0OLW21aWJ1G4G1a6w1G2G1a6w1G4G1aMK1G2G1aMK1G4G1aer1G2G1aer1G4G1a5y1G2G1a5y1G4G1aML1G2G1aML1G
4G1JxG0GbGU1G2G1JxG0GbGU1G4G1ZW1G2G1ZW1G4G1acg1G2G1acg1G4G1ace1G2G1ace1G4G1abd1G2G1abd1G4G1a7x1G2G
1a7x1G4G1Wc1G2G1Wc1G4G1GJGD1G2G1GJGD1G4G1OiGD1G2G1OiGD0KYG1OLQkG53OYG50JiOLG1Qc3NYGH0aIZG1GC2Gv2GB
2MJ2JP2Z22aCv2GD2OV2GK2H62Gy2a3d2aYE2aRW2a9O2Ua2a2Y2aA62HB2a4G2Jm2a3r2Lm2aZN2aBr2a252U12aVF2KK2aV3
2aES2OX2aET2H92aAB2aQY2aAn2Yc2aAD2aXS2aED2Ru2Tn2Lx2LV2Kh2KD2aBT2WS2Y92aUn2Yb2I92QF2aBB2RZ2a7K2IH2H
82Mw2JR2a2G2LJ2aTB2a3S2Rp2H72N52MC2Lu2WC2Ug2YG2Hs2aVE2aYt2bZp2buo2buX1JiGLbui3crv1aUy1IzIC1KI1IZ1P
l1KkGL.0A7000KYG1aKFHxS9aAu4PsaAu4S9aZH4PsaZH4S9Z04PsZ04S9Lx4PsLx2a11JlHxGl2I2JlHxGl2UAJlHxGl2HXJl
HxGl2a12JlHxGl2a11JlQoHxGl2I2JlQoHxGl2UAJlQoHxGl2HXJlQoHxGl2a12JlQoHxGl2a11QoHxGl2I2QoHxGl2UAQoHxG
l2HXQoHxGl2a12QoHxGl2GMGdGl3Ni3HEGl2HPG8KJIu2LCGfG73GpG73L7GL3IOL7GL2HXIOL7GL2aCfG6I2Hx4HXHx0IxG4G
1a0pHC1G2G1a0pHC1G4G1a0pK81G2G1a0pK81G4G1Xv1G2G1Xv1G4G1ad81G2G1ad81G4G1acS1G2G1acS1G4G1a0Y1G2G1a0Y
1G4G1a0YG0IZ1G2G1a0YG0IZ1G1G2G4IK4Ge1G4G1Hh1G2G1Hh1G4G1a001G2G1a001G4G1I71G2G1I71G4G1Uz1G2G1Uz1G4G
1UzG0HEGl1G2G1UzG0HEGl1G4G1PE1G2G1PE1G4G1I4HjG0GM1G2G1I4HjG0GM1G4G1HRG0GV1G2G1HRG0GV1G4G1HRG0JHGV1
G2G1HRG0JHGV1G4G1HRG0GVG6JHGV1G2G1HRG0GVG6JHGV1G4G1V8Gj1G2G1V8Gj1G4G1GjG0I2GV1G2G1GjG0I2GV1G4G1GDG
0HrGVLj1G2G1GDG0HrGVLj1G4G1GDG0Mx1G2G1GDG0Mx1G4G1J81G2G1J81G4G1HoG0GVOaJd1G2G1HoG0GVOaJd1G4G1HoG0X
j1G2G1HoG0Xj1G4G1HoG0aaQIo1G2G1HoG0aaQIo1G4G1IeG0GVOaJd1G2G1IeG0GVOaJd1G4G1IeG0JHGV1G2G1IeG0JHGV1G
4G1GcZB1G2G1GcZB1G4G1a3fZB1G2G1a3fZB1G4G1HTG0JHGV1G2G1HTG0JHGV1G4G1aDz1G2G1aDz1G4G1addHl1G2G1addHl
1G4G1TQG0GV1G2G1TQG0GV1G4G1TQG0GVOaJd1G2G1TQG0GVOaJd1G4G1adW1G2G1adW1G4G1Ol1G2G1Ol1G4G1Vv1G2G1Vv1G
4G1aKT1G2G1aKT0KYG1Wt0IxG2G1bVJ3Rn3c8V3cGQ3a3f1G1G2G4a3f1G2G1a4g3ZY1G4G1MtHb1G2G1MtHb1G4G1MtIK1G2G
1MtIK1G4G1MtHO3HqMtHO1G2G1HqMtHO1G4G1HqGj1G2G1HqGj1G4G1MtGc1G2G1MtGc1G4G1MtGe1G2G1MtGe1G4G1MtHS1G2
G1MtHS0KYG1HXHvJh2KI2J0K0G50IxG4G1aYr1G2G1aYr1G4G1HqHV1G2G1GjG0JSGUG6Pv1G1cg5GM1G4G1H1G0Jd1G2G1H1G
0Jd1G4G1HjG0Gl1G2G1HjG0Gl5KjGU3HVG0KjGU1G4G1HuG0Xj1G2G1HuG0Xj1G4G1IKG0GV1G2G1IKG0GV1G4G1WvKF1G2G1W
vKF1G4G1WvJf1G2G1WvJf1G4G1WvLn1G2G1WvLn1G4G1HOG0O4GV1G2G1HOG0O4GV1G4G1HRG0O4GV1G2G1HRG0O4GV1G4G1H1
G0O4GV1G2G1H1G0O4GV1G4G1GcG0O4GV1G2G1GcG0O4GV1G4G1GeG0O4GV1G2G1GeG0O4GV1G4G1HVG0GU3I4HmGH3LXHO3GjG
0Pv3G2G4GK1G1G2G4Ie1G4G1HqHR4HS3I6G0RO3LS3MT1G2G1MT1G4G1Jo1G2G1Jo1G4G1GBG0GV1G2G1GBG0GV1G4G1KoGC1G
2G1KoGC1G4G1KoGK1G2G1KoGK1G4G1KoGB1G2G1KoGB1G4G1IraAyGD1G2G1IraAyGD1G4G1aHkHy1G2G1aHkHy1G4G1HjG0Kj
GU3GeG0GU3HlG0KjGU3HbG0J0GVLj1G2G1HbG0J0GVLj1G4G1GeG0J0GVLj1G2G1GeG0J0GVLj.0A7D01G4G1JzMtHO1G2G1Jz
MtHO.0A7D33GJTQ.0A7D54a4s1G4G1GbaZ1Ge1G2G1GbaZ1Ge1G4G1aZeGe1G2G1aZeGe.0A7F20KYG1G4Hj3IK3Ie0IxG4G1I
4GqHV1G2G1I4GqHV1aMsG1RyGK0KYG1G4HVG0GV2G2KCJf0IxG1G2G4HqHB1aMsG1I4IK4Ho3IOHB3GKa933MQHB0ckjcA1G1G
C3GK2G5bVc2G1GB3GH3GD2G5aOm2G1LJ3U23Om3aOE2G5J12G1PN3RL3Q53bqD3aDg3a4f3a6Y3aLL3GO3Nl3MI3aLb3JY3N03
QA3PJ3aIy3Lu3L33ML3aYd3LM3L82HGG5GC4GK4GB4GH4J82cOPYP3YQ3aT53c4E2G5LeaOm.0A8300J7aPmMXGFKE4Gq3GNO7
3GFWe4Kz3GNa3y2KEGL2aAwGL2UNGL2cQyGL.0A8400cMxG1Gv2IP2HU2I92II2IM2IG2IN2HI2Ia2HM2H82Gy2In2He2H72Kc
2OB2Ok2IH2M82J92G2GC2H92H22H62IA2HH2Gs2GC2GK2GB2GH2GD2MN2OD2JW2Vh2JP1WgG1IH3H91G1J22JV2J32JI2LeH92
cyGIA2R8Gs2auKJW1WgG1H21ckIG1H21G1KM1IBMYGL1GJMYGL1GLNh2GJNh.0A8800cXpG5J12Jy1G1GC2Hh2GK2I02GB2IE2
IhGc3Jg3Gj3K12GH2JP2Hz2GD2J82I72Gv2IP2HU2J52I92II2IM2IG2Jw2IN2J22JV2J32Jc2JI2HI2Ia2HM2J62H82Gy2In2
He2JJ2H72H92H22H62Is2IA2JZ2HH2Gs2Ks1LfG5bh71HGG5Hh3GK3I03GB3IE3IhGc4Jg4Gj4K13GH3JP3Hz3GD3J83I71G5J
b2KM.0A8CE1KV1GJKV1HKHg2GF2GE2GN2GT2GX2Gg2Go2Gh2Gt.0A8E00Jia6fHKHg3GF3GE3GN3GT3GX3Gg3Go3Gh3Gt2G1GC
3GB3Gv3H83Gy3H23S62G5NR0a6fG5aCRKM2KMJb2GJKMJb2KMGE3GN3NR2cPw1XmRX1QY1a7n1G5UU1bpvOv1G1PE1HGG5PE0a
QRMwHKHg3GF3GE3GN3GT3GX3Gg3Go3Gh3Gt2G1Gv3IP3HU3I93HH3IA3J93IN3HI3aPO3H83Gy3In3H73HM3He3H23H93H63IH
3Ia3Gs3Is3II3GC3Jf3GK3J82HGLn3GH3GB3JP3GD2HxaX23b2n4aX22G5a6S3cfX0cT9G1Gv2HU2I92HI2HM2H82Gy2He2H72
II2IG2IN2HH2H22H62H92IH2Gs2YR2Yb2WJ2cGv2GC1HGG5GK3GB3GH3Hz3GD3I73RU3a6x1LfG5Mc3H13Gc3HV1Jb.0A95F1L
YGL0QjaKHcp12ac22ac42ac02a3W2aYL2aBX2cU22a3X2a3Y2cU02aYF2a3Z2cTs2aYG2aTa2c6h2a9T2cNd2cNW2aWl2ci92b
oO2boI2ci52ciB2cN82biy2ciD.0A9800bq0G5cLW2aJz2bxg2d4V1G1GC2GKbsL32I02GB2Gyb3z2I9bxy4cSZ2GH2Hz2GD2G
v3TB3Q82HU3Q82I92II3Q82IG2INQ82IGSm2IN2J23Sm2J33Sm2H8Q82HI3Q82HM3Sm2H82Gy3Q82He3Q82H72H92H23arl2H6
2IH2HHQ83Sm32Gs1G5aJzcnZ1HGG5cmx3cpf3d594c5B3aam4c5H3abS3bQ6c8h3aWT1LfG5bsk3cMS3aJn1cLM1GAaY81G8aY
81aAZasn2c3P2bzw2ae02cLL2byx2bzz2Zv3Zv2aWw1HqaAZaWw.0A9CF1cLP1HKHg2GF2GE2GN2GT2GX2Gg2Go2Gh2Gt.0A9D
E1aAZcpGcrz2bpg0a2WG1QEJ53IM3Jw3JI3JJ1G5QEaBi1KYG1QEaY31G1S2a27IN4JW4HU4J54IG4Jw4J34Jc4JI1S2a27HKH
g4GF4GE4GN4GT4GX4Gg4Go4Gh4Gt1G1S2a27Ks4HM4J64He4JJ.0AA000b49G1GC2GK2GB2GH2Hz2GD2Gv2IP2HU2J52cCe2I9
2IM2b4d2IG2Jw2cCo2WL2cCn2HI2Ia2HM2J62cGO2H82J32Gy2cOt2In2He2JJ2c8K2H72Tf2H92H22H62Is2JZ2HH2Gs1HGG5
Hh3GK3I03RQ3GB3Jf3GD3Hz3I73Ln1LfG5H93H23H63IH.0AA401G1GIHR3HO3Mc1LfG5GIMc1G1GIaK43HS3H13Ho3Hd3Gc3G
j3a451LfG5GIHB4HV.0AA501HKHg2GF2GE2GN2GT2GX2Gg2Go2Gh2Gt.0AA5C1JMa422KV2GJKV2JEKV0a2WG1W4HU3II3IM3I
G3Jw3IN3J23JV3J33Jc3J63H83HH3Gs3Re3JW1KYG1W4aY31G1W4OD3J93H21YLW4aVa3cQr3bjf1GWa5AL73GF3GE1G1a5AH2
1G5cLaRjHx2S2a27R34R41G1WcaAaIM4IA0S2adbG1HXLJ3I2LJ3HXU23I2U23HXaQg3I2aQg3HXOm3I2Om3HXUE3I2UE3HXPN
3I2PN3HXRL3I2RL3HXLM3I2LM3HXRs3I2Rs3HXMI3I2MI3HXGO3I2GO3HXNl3I2Nl3HXJY3I2JY3HXPJ3I2PJ3HXN03I2N03HX
QA3I2QA3HXPU3I2PU3HXLu3I2Lu3HXKL3I2KL3HXL33I2L33HXML3I2ML3HXR73I2R73HXL83I2L83HXGD3I2GD2Osa1o2HGHh
3GK3Ln3GB3GH3GD2OsbtA2HGa1b3ctu3Wq3aIF3PE3KA3QQ2HxOsVT4aVG4Nl4chD.0AADB2GWaQs3aVG3aBf3L8bkf3a8ca8c
0aTKaT9G1GH3GD3IM3IN3J23JV3J33Jc3JI3IA3JZ2HGG5I04IE4aHH4I74apb2b4Q2arobtL2a5H2NMaBSGL2OCaBSGL2HGG5
Jy2Jb.0AB010a0zNMcra2acl2aDf2crY2ack2a4f.0AB092bOH2bOG2aLK2bOF2bOE2aLL.0AB112aMJ2aMG2bVk2aME2SS2aM
I.0AB202b3V2b3b2b3Z2b3W2b3Y2b3X2b3a.0AB282Tf2aIh2aIf2az82azC2XE2aIg.0AB300IxG2G1QTK93GCcTZ3aJ8GH3Q
TGH3GHG0Xj3aRbIK3LXHOG0RO3GjG0IOa8pGe5GJGbHJ5GbHL3HBG0RO3H1G0RO3PQG0RO3aJ8GD5G0GV3HmGDG0GV3IOJf3Hq
JfG0GV6HEGV4GDcJq6G0GV3cj5Gc1G1G2G4GcG0G8NG1G2G1GcZjaOk3GJGc3GcG0RO3GJGcG0RO3LXGc5G0HL3aIaMn3GBG0J
0G8NG4GlG0J0G8NG3a4k3Hqa4k3GBG0GAGU3LS4G0HXG8HL6GAaZB3HtG0HXG8HL5HrGANG8G6HXG8HL8G0aZB3HdG0J0G8NG0
KYIjG0IOIj1G1G2Xv3GjG0IOa8pGe5GbHJ3GBG0GAGU0IxG2G1cXHS83NYGH3HmJf3adL3IOK90LIG1G2G4Jo0IxG2G1SRKnG0
JSGU3aDaKnG0JSGU3HqGcG0GbHJ0KYG1G2HqHy2GAK72G8K7.0AB700aKCG2G1GC3GH3GK3GD3GB3HT3HU3Gv3Qi3Ls3Om3NW3
aOa3Gs3JX3Kq3L83OS3a1Z3H63O23Mw3ML3LV3aS43H73KX3Kh3Lu3Jm3H83a7s3a9m3KZ3KD3JY3KK3aAG3aXe3aXf3aXg3aB
K3aBL3aXj3HH3Ge3Ly3Lm3LM3MF3aCo3HM3HI3Lp3Jx3MW3N53MI3NT3aMB3a0i3aDK3aDL3aDN3aDO3aDP3acE3Kc3Oc3Um3a
4d3a4e3acf3IH3LG3M63Ld3QM3ae93H90aTKaT9G1aQr3aBf3a263a9V3Gy3H83b4j3aDG3btI3aUr3coO3d3j3Ps3blw3TV3G
K3cMz3auZ3bfY3bqB3cSN3He3Y43bPt3bew3bPa3b023aQrSl3a26Sl3a9VSl3GySl3H8Sl3aDGSl3aUrSl3GKSl2HGG5cJa4b
ot4asj4d7D4chK4cuG4b4S4aAF2b4R2RnaPw2atTaPw.0ABF02HKHg3GF3GE3GN3GT3GX3Gg3Go3Gh3Gt.0D7B00QjaQCcHp2c
Hk2d7q2d7r2d7s2ct02csx2d8F2d8I2bYE2bYG2bYF2bYI2bmz2bn02bn22bn12bmw2bn32bn42bmu2atb2atc.0D7CB1a8IcD
32cD12a4A2ciC2ac22ac42cp22ac02cp02cp32aYL2cTt2ci72cTu2cTz2cTy2cU52cU42aQO2c6c2c6f2ci62c6d2c6a2aAt2
cNa2cNX2a482aAs2aAr2aWk2aZm2cg82ci82ciA2cgA2aCA2aZk2aZp2aZl2cLU2cLT2d7L2d7I2b5U2b5V2a462cN92cNA.0F
B000IxG2KCaNE3Q13baz3baY3baZ3HrGeHS3a4B.0FB130XBG2KCRpa2h4VS4a863aDxa2h3RpaEE.0FB1D0aOtG1RBG0aP81O
xbqscwW1KCaeSRBRBa2z1G1a5DPF2ZhHC3a0b3JX3KW3a283GIMb3P23aCx2a5DGmG52KbG0KbGM4a3xGM4LgG6KbGM6a3xGM2
HCG0a2z4a3G4a9E2V4G0Lg2NUG0Lg2a0bG0Lg2JXG0a9E2WuG0Lg2OfG0Lg.0FB382UgG0Lg2RBG0Lg2GIKWG0Lg2KWG0Lg2a2
8G0Lg.0FB3E2MbG0Lg.0FB402JAG0Lg2NgG0Lg.0FB432GIJBG0Lg2JBG0Lg.0FB462aDbG0Lg2aBJG0Lg2P2G0Lg2KbG0Lg2a
CxG0Lg2WuG0aPF2V4G0a3L2KWG0a3L2JBG0a3L1KCHCa280MPG1HCaE2GQG34GIG32aIpGQG33GIG33GYG33HfG32WPGQG33GI
G33GYG33HfG32aIsGQG33GIG33GYG33HfG32acjGQG33GIG33GYG33HfG32abgGQG33GIG33GYG33HfG32aDeGQG33GIG33GYG
33HfG32adVGQG33GIG33GYG33HfG32aWOGQG33GIG33GYG33HfG32aMDGQG33GIG33GYG33HfG32aVUGQG33GIG33GYG33HfG3
2a4LGQG33GIG33GYG33HfG32abeGQG33GIG33GYG33HfG32aLGGQG33GIG32aKxGQG33GIG32aM9GQG33GIG32aLHGQG33GIG3
2aQ1GQG33GIG32aYcGQG33GIG32W3GQG33GIG33GYG33HfG32VfGQG33GIG33GYG33HfG32aOVGQG33GIG33GYG33HfG32aUoG
QG33GIG33GYG33HfG32Jka1IGQG34GIG32aYRGQG33GIG33GYG33HfG32KgG0H3G9GQG36GIG33a1KGQG34GIG34GYG34HfG33
aLsGQG34GIG34GYG34HfG32H3a0BGQG34GIG34G0JvG9GQG37GIG31GWGMG93GG2GEH0G94GG2GNH0G94GG4ISHNG96GG2GTH0
G94GG2GJGdGlGG2GEH0UpG95GG2HL2G2KuG94GG2aE2G9.0FBD31G1McGQG33GIG33GYG33HfG32GBGQG33GIG32JfGQG33GIG
32JuGQG33GIG32GBG0JvG9GQG32NmGQG33GIG32YCJfGQG34GIG33JuGQG34GIG32GHGQG33GIG33GYG33HfG32adDbsOYCHCI
RGYG37HfG31KCH3G0JvG9G0HCGQG38GIG37KFGQG38GIG37JqGQG38GIG37GBGQG38GIG37JfGQG38GIG37JuGQG38GIG37GHG
QG38GIG38GYG32adDYCH3G0JvG9G0HCIRGQG3BGIG3BGYG31G1TmH3GQG34GIG34GYG34HfG31KCH3G0JvG9G0HpGQG37HcGQG
37GkGQG37HCIRGQG37H3GQG32MGG0HpGQG34HcGQG34IqGQG34GkGQG34HCIRGQG34H3GQG32MeG0HpGQG34HcGQG34IqGQG34
GkGQG34HCIRGQG34H3GQG32PpG0HpGQG34GkGQG34HCIRGQG34H3GQG32HpG0HcGQG34GkGQG32HcG0HpGQG34GkGQG32IqG0H
pGQG34HcGQG34GkGQG32L4G0HpGQG34HcGQG34IqGQG34GkGQG32LkG0HcGQG34GkGQG32MVG0HpGQG34HcGQG34IqGQG34GkG
QG32KuG0HcGQG34GkGQG32QOG0GkGQG32K8G0HpGQG34GkGQG32NAG0HpGQG34GkGQG32LiG0HpGQG34HcGQG34IqGQG34GkGQ
G34HCIRGQG34H3GQG32LBG0HcGQG34GkGQG34HCIRGQG34H3GQG32KWG0HCGQG34HpGQG34HcGQG34IqGQG34JtGQG34GkGQG3
4HCIRGQG34H3GQG32JtG0HpGQG34HcGQG34IqGQG34GkGQG34HCIRGQG34H3GQG32GkG0HpGQG34HcGQG34IqGQG34GkGQG34H
CIRGQG34H3GQG32JkG0HpGQG34HcGQG34IqGQG34GkGQG34HCIRGQG34H3GQG32KgG0HpGQG34GkGQG34HCIRGQG34H3GQG32H
3G0HpGQG34HcGQG34IqGQG34GkGQG34HCIRGQG34H3GQG32UhG0P7HCGQG32KSG0P7HCGQG32HCIRG0P7HCGQG32WZG0XWGQG3
4Y7GQG34PRGQG34QaGQG34OpGQG34P7HCGQG32H3G0JvG9G0KSGIG37OGGIG37GkGIG37JkGIG37HCIRGIG37H3GIG32MGG0KS
GIG34OGGIG34GkGIG34JkGIG34HCIRGIG34H3GIG32MeG0KSGIG34OGGIG34GkGIG34JkGIG34HCIRGIG34H3GIG32PpG0KSGI
G34OGGIG34GkGIG34JkGIG34HCIRGIG34H3GIG32LiG0HCIRGIG34H3GIG32LBG0HCIRGIG34H3GIG32KWG0HCGIG34JtGIG34
GkGIG34HCIRGIG34H3GIG32JtG0GkGIG34HCIRGIG34H3GIG32GkG0HCGIG34GkGIG32JkG0KSGIG34OGGIG34GkGIG34JkGIG
34HCIRGIG34H3GIG32HCIRG0P7HCGIG32H3G0KSGIG34OGGIG34GkGIG34JkGIG34HCIRGIG34H3GIG34JvG9G0HpGYG37HcGY
G37IqGYG37GkGYG37KgGYG32MGG0HpGYG34HcGYG34IqGYG34GkGYG34KgGYG32MeG0HpGYG34HcGYG34IqGYG34GkGYG34KgG
YG32PpG0GkGYG32HpG0HcGYG34GkGYG32HcG0HpGYG34GkGYG32IqG0HpGYG34GkGYG32L4G0HpGYG34HcGYG34IqGYG34GkGY
G32LkG0HcGYG34IqGYG34GkGYG32MVG0HpGYG34HcGYG34IqGYG34GkGYG32KuG0HcGYG32QOG0GkGYG32K8G0HpGYG34GkGYG
32NAG0HpGYG34GkGYG32LiG0HpGYG34HcGYG34IqGYG34GkGYG32LBG0HcGYG34GkGYG32KWG0HpGYG34HcGYG34IqGYG34JtG
YG34GkGYG32JtG0HpGYG34HcGYG34IqGYG34GkGYG34KgGYG32GkG0HpGYG34HcGYG34IqGYG34GkGYG32JkG0HpGYG34HcGYG
34IqGYG34GkGYG34KgGYG32KgG0HpGYG34GkGYG34P7HCGYG32H3G0HpGYG34HcGYG34IqGYG34GkGYG34KgGYG34JvG9G0GkH
fG37KgHfG32MGG0GkHfG34KgHfG32MeG0GkHfG34KgHfG32PpG0GkHfG34KgHfG32L4G0GkHfG34KgHfG32MdG0GkHfG34KgHf
G32KWG0JtHfG34GkHfG32JtG0GkHfG32JkG0GkHfG34KgHfG32H3G0GkHfG34KgHfG32WZG0PRHfG34QaHfG34OpHfG32KuG0H
CIRGQG34H3GQG32K8G0HCIRGQG34H3GQG32NAG0HCIRGQG34H3GQG32L4G0HCIRGQG34H3GQG32MdG0HCIRGQG34H3GQG32HcG
0HCIRGQG34H3GQG32HpG0HCIRGQG34H3GQG32IqG0HCIRGQG34H3GQG32LkG0HCIRGQG34H3GQG32MVG0HCIRGQG34H3GQG32M
dG0HpGQG34HcGQG34IqGQG34GkGQG34KSGQG32L4G0KSGQG32LkG0KSGQG32MVG0KSGQG32KuG0HCIRGIG34H3GIG32K8G0HCI
RGIG34H3GIG32NAG0HCIRGIG34H3GIG32L4G0HCIRGIG34H3GIG32MdG0HCIRGIG34H3GIG32HcG0HCIRGIG34H3GIG32HpG0H
CIRGIG34H3GIG32IqG0HCIRGIG34H3GIG32LkG0HCIRGIG34H3GIG32MVG0HCIRGIG34H3GIG32MdG0HpGIG34HcGIG34IqGIG
34GkGIG34KSGIG32L4G0KSGIG32LkG0KSGIG32MVG0KSGIG32MdG0HpGYG34HcGYG34IqGYG34GkGYG32L4G0KgGYG32MdG0Kg
GYG32KuG0GkGYG32L4G0HpHfG34HcHfG34IqHfG32MdG0HpHfG34HcHfG34IqHfG32KuG0GkHfG32QOG0GkHfG32HCG0VZGIG3
5GQG30cK5GAJQ1G8JQ0MPKCcSKaHd2aXtasPasw4asx4asz4at04at12cXQZyd3a2Zya052asDa052asEa052ZyauBd3u2cR1c
gG2cXRZyd3dd3b2asCa052cmVd3c2cSLaHd2MeG0HpG0GkGYG34HcG0HpGIG37GYG36GkGYG34IqG0GkGYG34GkG0HpGYG36Hc
GYG36IqGYG32HpG0GkG0HcGIG37GYG32HcG0GkG0H3GIG36HCIRGIG32L4G0HcG0HpGYG34HpG0HcGYG36HCIRGIG34GkG0HcG
IG37GYG36HpGYG36GkGIG37GYG32LkG0HcG0HcGIG37GYG34GkG0GkGIG32MdG0HcG0GkGIG37GYG34HpG0H3GIG34GkG0IqGI
G37GYG36GkGIG37GYG32MVG0HcG0HCIRGIG34IqG0GkGIG37GYG32KuG0GkG0HcGIG37GYG36GkGYG36H3GIG32K8G0HpG0GkG
IG34GkG0GkGIG37GYG36HCIRGIG32NAG0GkG0GkGIG36H3GIG36HCIRGIG32LiG0IqG0GkGIG37GYG32LBG0GkG0HcGIG36GkG
IG32JtG0HcG0GkGIG36H3GIG36HCIRGIG34HpG0HpGYG37GIG34IqG0GkGIG37GYG34GkG0HcGIG37GYG32GkG0HcG0HpGYG36
GkGYG36H3GIG34HpG0HcGYG36GkGYG34IqG0HpGYG36GkGYG3.0FD924HpG0IqGYG32KgG0GkG0HpGYG36GkGYG32JkG0HcG0G
kGYG36HCIRGIG34HpG0GkGIG37GYG36HCIRGIG34GkG0H3GIG36HCIRGIG32H3G0GkG0GkGIG37GYG32MGG0IqG0H3GIG32MeG
0HpG0H3GIG36HCIRGIG34IqG0H3GIG36HCIRGIG34GkG0H3GIG36HCIRGIG32HpG0GkG0H3GIG34HcG0HCIRGIG34GkG0HCIRG
IG32L4G0IqG0HCIRGIG32LkG0HcG0H3GIG32MdG0HcG0H3GIG32MVG0HcG0H3GIG32JtG0HpG0H3GIG34GkG0H3GIG32H3G0Hc
G0H3GIG34HpG0H3GIG34GkG0H3GIG32GkG0GkG0H3GIG32LBG0GkG0H3GIG32JkG0HcG0H3GIG32LBG0GkG0HcGYG32JtG0HcG
0GkGYG32K8G0GkG0H3GIG32KWG0GkG0H3GIG32JkG0HpG0HcGYG32GkG0IqG0H3GIG32JtG0HpG0GkGYG32KWG0GkG0GkGIG32
JtG0HpG0GkGIG32JkG0HpG0HcGIG32HpG0HcG0H3GIG32HcG0HpG0H3GIG32GkG0HpG0H3GIG32LiG0GkG0H3GIG32MGG0HcG0
H3GIG32KWG0GkG0GkGYG32K8G0HpG0GkGYG32LkG0GkG0GkGYG32L4G0IqG0H3GIG32JkG0HpG0H3GIG3.0FDCF2cXNasF.0FD
F02aYpadPOHaQuICG5GQG32cQMadPOHaQuICG5GQG32asQGQG32as3GQG32c7aGQG32cXPGQG32cSYGQG32X5GQG32adlGQG32
aYpGQG32aYqX5adl2bpx0cToG50MPKCb0TatYatX2cjwIHcmP2av7IHbpw0ZccYV1caI1cbO1cbZ1cbk1cbv1cc61ccH1ccS1c
YW1cYh1cYs1cZ31cZE1cZP1cZa0a3DG3JjGdIZ4NzIZ5IzIC4KI4Pl4L7GL4KkGL4GAGSRmGu4G8GSRmb1A4HEST.0FE200JiK
CGAGq2G8Gq1GJHJGAGq3G8Gq1IQGAGq2G8Gq1aKVIQ1KCGAGqGG2G8GqGG1HJGAGqGG2G8GqGG1IQGAGqGG2G8GqGG1aKVIQGG
1OLa4TGAGq3G8Gq0a3DG3JjGdGEGMa8q4MmJO4J4JO4HXI84R9HXI84GAJQ4G8JQ4GAL5Gu4G8L5Gu4GAN6LZGu4G8N6LZGu4G
AGPRmGu4G8GPRmGu4GAGJIuGu4G8GJIuGu4GAIuGu4G8IuGu4GAKJGu4G8KJGu4GAGSKJGu4G8GSKJGu0aZCGM0GSaZCGM0a3D
G3JjGdGAGxGu4G8GxGu0OjT00aK2T00R9T00GJR9T00OjHXI80aK2HXI80R9HXI80G2IZ1NzIZ1IzIC.0FE541Pl1KI1KkGL1L
7GL1MmJO1GAJQ1G8JQ1GAL5Gu1G8L5Gu1GAN6LZGu1G8N6LZGu1ITG51SB1JC1GmG51a1a1IcG51IfG51K0G5.0FE681LwLa1T
jG51YsG51XRLQ.0FE700MPVZGQG31a4KG0VZG91XWGQG31Iobbh1Y7GQG3.0FE761PRGQG32HfG31QaGQG32HfG31OpGQG32Hf
G31WZGQG32HfG31UZGQG32HfG31G1JvGQG32HCG0RoG9GQG36GIG34JvG9GQG36GIG32JqG0JvG9GQG36GIG32HCG0JvGGGQG3
6GIG32H3G0JvG9GQG36GIG36GYG36HfG32HCGQG33GIG32MGGQG33GIG33GYG33HfG32Mea9FGQG34GIG33GQG33GIG33GYG33
HfG32PpGQG33GIG33GYG33HfG32HpGQG33GIG33GYG33HfG32HcGQG33GIG33GYG33HfG32IqGQG33GIG33GYG33HfG32OMGQG
33GIG32UhGQG33GIG32KSGQG33GIG32OGGQG33GIG32L4GQG33GIG33GYG33HfG32MdGQG33GIG33GYG33HfG32LkGQG33GIG3
3GYG33HfG32MVGQG33GIG33GYG33HfG32KuGQG33GIG33GYG33HfG32QOGQG33GIG33GYG33HfG32K8GQG33GIG33GYG33HfG3
2NAGQG33GIG33GYG33HfG32LiGQG33GIG33GYG33HfG32LBGQG33GIG33GYG33HfG32KWGQG33GIG33GYG33HfG32JtGQG33GI
G33GYG33HfG32GkGQG33GIG33GYG33HfG32JkGQG33GIG33GYG33HfG32KgGQG33GIG33GYG33HfG32JqGQG33GIG32HCIRGQG
34GIG32H3GQG33GIG33GYG33HfG31KCJtG0HCG0RoG9GQG38GIG36JvG9GQG38GIG37GGGQG38GIG35GQG35GIG3.0FEFF0HgZ
iaA8M1.0FF010aNfL7GL1KaGL1ITG51TjG51YsG51SB1RF1GAJQ1G8JQ1JC1GmG51IZ1a1a1IzIC1La1HKHg2GF2GE2GN2GT2G
X2Gg2Go2Gh2Gt1KI1Pl1IcG51K0G51IfG51KkGL1XRLQ1IxG4G1GC4Hu4Hj4Hb4GH4IK4HO4HV4GK4I64HR4Gj4HB4H14GD4Ho
4Ie4Gc4Ge4HS4GB4HT4Hy4Ht4Hd4Hl1GAGxGu1LwLa1G8GxGu1HvJh1HXI81ILJh1IxG2G1GC4Hu4Hj4Hb4GH4IK4HO4HV4GK4
I64HR4Gj4HB4H14GD4Ho4Ie4Gc4Ge4HS4GB4HT4Hy4Ht4Hd4Hl1GAL5Gu1GdI81G8L5Gu1HJ1GAGSJQ1G8GSJQ0aOiNzIzIC1G
AKJGu1G8KJGu1NzIZ1Q6GbGM2G1Ld3G2GC4GK4GB4GH4GD4H94Ju4KL4LO1Y8aXLNLGL1Q6G1GC3GK3GB3GH3GD3Gv3MC3MJ3M
B3LJ3HH3Lm3MF3Ly3LM3HI3N53LO3Jx3GO3H83KD3KK3KZ3JY3Gs3Kq3OS3JX3L83H73Kh3Jm3KX3Lu3H93Ju3KL3H23NI3Lx3
N13L33IH3H12R8NLGL2aBpNLGL1QjRX2G1Sj3a473a8Z3St3a2d3a2e3TS3a4A3T93a3W3a3X3a3Y3a3Z3aBW3aBV3a3V3Sp3T
73a483a343TG3a493Rg3RM3a463SJ3Si3TO3T53Sb.0FFC23GC3KF3H93Zl3Xg3GH.0FFCA3aEM3Nn3GD3IH3aE03Jf.0FFD23
KL3GB3aE53LG3M63Ju.0FFDA3RU3Kl3GK.0FFE00aNfaK1G51a3BG51IdG51IQ1V8Gl1ZnG51aEAG5.0FFE80aOibbZHFGd1Gn
G71HaG71GZG71HNG71GPGx1GSGz.0FFF90bpMaHlaHi2KT2abl0cJ8aY7NS0aY7NS.100000aRlHuNMaIUGC3avaGH3avRGK3a
vxGD3av9GB3aINHM3avhLp3aITMW3avDMI3avnNT3avtIG3aviPX.1000D3avYQ53aw1Tz3awDGv3avgMB3aw3MC3aw6LJ3awH
MJ3awGH73avCKX3aw9Kh3avELu3avMJm3aISH83avNKZ3avTKD3avoJY3avrKK3aIPGy3aw8JB3avbJR3avAN03avmP03avFMN
3awEa3H3avKYz3avVa3I.100283avwH23avQN13avpNI3aIOL33avPLx3avUHH3aIVLy3avdLm3avBLM3avuMF3avvHI3aIQJx
3avZN53aIRGO3aw5LO3avqIH3awBLG3avcM63aveLd.1003C3avGJ93awAM7.1003F3avJPt3avOa563avfajq3awKI73aw7a6
w3awObVh3avka2l3avSaXR3avycPX3awCcSC3avWcSD3aw4cUb3aw2cmO3awMZW3awPGE.100502GWavH3avI3avL3avX3avj3
avl3avs3avz3aw03awF3awI3awJ3awL3awN.100802Y1awQMD3awRTY3awSa6a3awTbXr3awUc4D3awVcik3awWaN23awXa3N3
awYceR3awZbi13awachM3awbaJL3awcXS3awdb1a3aweaE63awfayw3awgaVj3awhchd3awibLt2WEawjbs23awkbrx2Y1awla
2q3awma4r3awn2WEawoatk3awpc5L2Y1awqb1M3awra1L3aws3awtae43awu3awv3awwK43awx3awy3awz2WEax1cs82Y1ax23
ax33ax4a653ax53ax63ax7bdY3ax8ats3ax93axA3axB3axC3axD3axE3axF3axG3axH3axIa9Y3axJ3axKR53axL3axM3axN3
axO3axP3axQ3axR3axS3axT3axU3axV3axWa1V3axrbbQ3axuaId3axzaaI3ay0G73ay13ay2ckc3ay33ay43ay5d4KXL3ay6X
L3ay7XLaNa3ay8a4q3ay93ayA2WEayBbQ52Y1ayC3ayD3ayF3ayG3ayH3ayIbNv3ayJ3ayK3ayL3ayM3ayN3cxaax04axX4axY
4axZ4axa4axb4axc4axd4axe4axf4axg4axh4axi4axj4axk4axl4axm4axn4axo4axp4axq4axs4axt4axv4axw4axx4axy4a
yE4ayO.101000arROCKTI83GM1PMGL.101071ITGF2GE2GN2GT2GX2Gg2Go2Gh2Gt2Hs2Ja2M22Mo2KB2NJ2K52Nv2Jn2GFGr2
GEGr2GNGr2GTGr2GXGr2GgGr2GoGr2GhGr2GtGr2GFH52GEH52GNH52GTH52GXH52GgH52GoH52GhH52GtH52HsH52JaH52M2H
52MoH52KBH52NJH52K5H52NvH52JnH5.101371adva0DZa2RYTL2UOTL2P8TL2a1DTL1a6tWDRYTL1aRoWDRYTL1WDUOTL2P8T
L0LIarAauiGFKE4Gq4a6s3GX3KB3GXGr4H53KBH53GXUb3HsUb3KBUb3GFGrUb3GXGrUb3GFH5Ub3GXH5Ub4TJ3HsTJ3KBTJ3G
FGrTJ3GXGrTJ3GFH5TJ3HsH5TJ3KBH5TJ3Hsa9W2biJGFcO82WnGF2a7oGF2a73GE2WnGE2bLxGEaM02a73GEaM02aDXGX3Hs4
LeG32a7oHs2c5RHs2WnHs3M22aDXKB4LeG32a7oKB2WnKB3GFGr3GNGr2a73GXGr2aDXGXGr2WnGXGr2b3EGXGr2cAMGXGr2Wn
GFH53GXH52bOuGXa9W2cjEKBa9W1GFGqG54LeG31GES3G51GNO7G51aeOG51cmjG51a6sG51cJCG51GEa2oG51GNa2oG51GTa2
oG51GXa2oG51c5WG51bvya0DG51bz6G51cKKG51d5cG51au6G51atwG51bfsG51crFa0DG51HgG51GFKEG51cg6G51bp3G50cE
jG5.101900Z7cd3G51cuKG51cciG51aZDG51bPwaZDG51cfvG51bOwG51cR5G51ccuG51bVQG51OHG51b3sG50auFGW.101A00
LIGWN4L2.101D00cMya0gG5aWN3cOFMY3cn1MY3b323a603TY3a1V3bdc3cot3G73V63aBx3a673c3s3c4Y3aBi3aRi3aJR3aJ
qaX03bQi3b7u3cgi3b7t3azi3aBy3K43biq3b1cNG3PL3a3N3aMN3aLz3cs03V23aX0R53S73cLd3aBc3byj3a2uPG3aNO3bfx
3cjD3G2a5N3R9aym3JiO4GV.102800c0CG1GC2GH2Hu2azz2HO2Hb2GK2Hy2Hl2TN2I62HR2Ie2Gj2HB2H12a2R2Ye2GB2Ho2a
1u2Gc2Ge2HS2aDd2KA2J42HV2Ht.102A00b36G1GC2cKh2Hb2Gj2cut2Gc2bxi2a562Ie2Hu2HB2GD2bNU2HS2UQ2ce82Ge2b2
52GB2Ye2Ht2H12crV2Ho2a452GK2GH2cuw2HR2brP2cAt2IE2HO2bdH2a4B2cif2Mc2I02b262aDd2cuu2Jg2a9H2c4f2c4g2c
4h2bxj2Xe2cuv.102E00LHbXmTRGL2HKGF3GE3GN3GT3GX3Gg3Go3Gh3Gt2ITHs3Ja3M23Mo3KB3NJ3K53Nv3Jn3GFGr3GEGr3
GNGr3GTGr3GXGr3GgGr3GoGr3GhGr3GtGr.103000IrQ4G1GC3Np3MB3Lp3GH3Nm3M73JX3Jp3GK3Gv3Lq3Mm3J43Mn3GD3JB3
K63MJ3Nx3Q03Jx3GB3bX53aAo3a8V3Qc3bXv3LR3I03IE3bY62QtGF3GX3Hs3KB.1032D2G1Nn3aV7Oc3aaCOc0bflG1arr2ay
g2bf02bNd2aru2cQL2bpm2bhC2coK2bX12bva2bwa2c3y2cAK2bq52cui2cKx2Jn2cSO2cXo2cnU2d4Z2ba12boW2aPR2cKC2G
tGr.103500IraWWG1KA3QW3bdM3aLt3GH3d9v3bVm3a513bVn3GK3bua3bxx3c5I3aUV3cyP3cMK3cT63ZI3S23GB3b4Z3cep3
ceQ3d893QN3GD3J83Qc3Gs3crQ3cwj3Zo3a4v3S83ND3Ju3H93a1b0JiIraWWG1KA4aLt4a514aUV4ZI.103800cu1G1asT2MT
2bdS2IP2MH2L82Ld2PB2blf2Ug2RB2KW2Kb2OT2Mb2bPK2JA2Pu2cXU2K82P02aYm2cQu2cSX2co12NA2GO2GK2GB2aCY.1039
F1OCVN0IraWXG5GC3GK3GB3Gv3MJ3HU3NW3OD3II3IG3Sf3HI3LO3HM3MW3NT3Ia3Gy3He3JW3H83KK3H73Kh3Jm3H93Is3S63
H23Lx3H63HH3J93IA3JZ3Gs.103C83aun3auo3aup3d5w3bNf3bNg3ayX3b1v2OCVN2ITGF3GE3Hs3Ja3Gr.104000bP8G4G1H
rGK4GH4GC4PC4GD4J83J0GK4GH4GC4PC4GD4J83PE3Yo3QM3X13HV3Ru3V23Wl3VI3a0Q3Vy3a8R3aNs3Qc3TX3SU3ZP3Q03Zq
3Mn3a533Nx3Lq3Mm3J43PQ3Yj3a761G2G1HrGK4GH4GC4PC4GD4J83J0GK4GH4GC4PC4GD4J83PE3Yo3QM3X13HV3Ru3V23Wl3
VI3a0Q3Vy3a8R3aNs3Qc3TX3SU3ZP3Q03Zq3Mn3a533Nx3Lq3Mm3J43PQ3Yj3a760ceMG1cMN2acH2btc2Tn2coE2LM2ckN2aK
J2d7A2bly2b082bOa2bdL2cyS2coB2aew2WD2bqt2d4m2bh52bzP2c6t2boU2aMT2JF2arM2IU2ae42Nc2PC2cUd2JA2a0o2ar
h2Sc2Gf2cJ42cJo2a2q2av12atj2Hn2a592a0x2atz2VR2aPY2d7U0cKAG1HC2He2HI2IG2OD2IP2bOj2H22HH2cef2J62aJw2
HU2JW2aBI2aQG2bwM2c6k2cGc2Jq2Gs2H92GC2GH2GK2GD2GB2Hh2JP2J8.104A01HKHg2GF2GE2GN2GT2GX2Gg2Go2Gh2Gt.1
04B00cK8G4G1GC3Hz3K83PC3aJW3IM3aMV3GH3aMb3Gs3aPV3GK3Gv3aMW3a8k3H63H73H83GD3aVe3Gy3aMX3HH3IA3HI3aMY
3Kc3aMZ3OB3J63GB3IH3IP3J53J93M8.104D81G2G1GC3Hz3K83PC3aJW3IM3aMV3GH3aMb3Gs3aPV3GK3Gv3aMW3a8k3H63H7
3H83GD3aVe3Gy3aMX3HH3IA3HI3aMY3Kc3aMZ3OB3J63GB3IH3IP3J53J93M8.105000bX8G1GC2Np2RI2LR2Lp2a2Z2XY2RQ2
GH2PS2Qi2a7c2JX2GK2PX2MB2O22bzB2KX2KZ2H82Sw2GD2JB2a3H2N12aYb2Ly2K62Jx2Jp2GB2Nm2Wz2Hd2M72No2Mr2beg2
a8V.105300b3IasGG1asV3V43a7b3aL93a6y3d9X3aN53d9u3cmy3IM3d833M83bpZ3IA3aRK3bpU3d5d3bVi3SH3bqE3bs43c
0G3biR3cQR3atG3b563LS3bLq3aT33Yy3cEy3bVo3ceA3bq33IU3csX3ba73bVl3aK83WQ3bes3a3O3ce33cxi3cpK3aZS3bpo
3bLp3aJw3d783aAv3btz.1056F2b5eGL0cy9G4G1GC3XE3Np3RI3LR3Lp3XY3RQ3GH3PS3HU.1057C3Gs3Re3GK3aPk3PX3Gv3
H63Ks3KX3KZ3Sw3GD3JB3MN3N1.1058C3Ly3K63Jx3Jp3GB3Nm3Wz.105943Hd3M7.105971G2G1GC3XE3Np3RI3LR3Lp3XY3R
Q3GH3PS3HU.105A33Gs3Re3GK3aPk3PX3Gv3H63Ks3KX3KZ3Sw3GD3JB3MN3N1.105B33Ly3K63Jx3Jp3GB3Nm3Wz.105BB3Hd
3M7.106000aRlGCG5apg3aph3api3apj3apk3apl3apm3apn3apo3app3apq3apr3aps3apt3apu3apv3apw3apx3apy3apz3a
q03aq13aq23aq33aq43aq53aq63afR3aq73aq83aq93aqA3aqB3aqC3aqD3aqE3aqF3aqG3aqH3aqI3aqJ3aqK3aqL3aqM3aqN
3aqO3aqP3aqQ3aqR3aqS3aqT3aqU3aqV3aqW3aqX3aqY3aqZ3aqa3aqb3aqc3aqd3aqe3aqf3aqg3aqh3aqi3aqj3aqk3aql3a
qm3aqn3ag93aqo3aqp3agi3aqq3aqr3aqs3aqt3agv3aqu3aqv3aqw3aqx3aqy3aFm3aFn3aFo3aFp3aFq3aFr3aFs3aFt3aFu
3ajt3aju3aFv3aFw3aFx3ajw3ajx3ajy3aFy3aFz3aG03aG13aG23aG33aG43aG53aG63aG73aG83aG93aGA3aGB3aGC3aGD3a
GE3aGF3ak03aGG3aGH3aGI3aGJ3aGK3aGL3aGM3aGN3aGO3aGP3aGQ3aGR3aGS3aGT3aGU3aGV3aGW3aGX3aGY3aGZ3aGa3aGb
3aGc3aGd3aGe3aGf3aGg3aGh3aGi3aGj3aGk3aGl3aGm3aGn3aGo3aGp3aGq3aGr3aGs3akh3akj3akl3akn3akp3akr3akt3a
kv3akx3akz3al13al43al63al83alA3alC3alE3alG3alI3aGt3aGu3aGv3aGw3aGx3aGy3aGz3aH03aH13aH23aH33aH43aH5
3aH63aH73aH83aH93aHA3aHB3aHC3aHD3aHE3aHF3aHG3ami3amj3amk3aml3amm3amn3amo3amp3amq3amr3ams3amt3amu3a
mv3amw3amx3amy3amz3an03an13an23an33an43an53an63an73an83an93anA3anB3anC3anD3anE3anF3anG3anH3anI3anJ
3anK3anL3anM3anN3anO3anP3anQ3anR3anS3anT3anU3anV3anW3anX3anY3anZ3ana3anb3anc3and3ane3anf3ang3anh3a
ni3anj3ank3anl3anm3ann3ano3anp3anq3anr3ans3ant3anu3anv3anw3anx3any3anz3ao03ao13ao23ao33ao43ao53ao6
3ao73ao83ao93aoA3aoB3aoC3aoD3aoE3aoF3aoG3aoH3aoI3aoJ3aoK3aoL3aoM3aoN3aoO3aoP3aoQ3aoR.107403aoSGC3a
oTHu3aoUHb3aoVGH3aoWIK3aoXHV3aoYI63aoZHR3aoaGj3aobbwG3aocbwH3aodbwI3aoebwJ3aofHy3aogHt3aohHd3aoiJo
3aojar13aokaz73aolbO73aombYj3aonPX.107603aoo3aop3aoq3aor3aos3aot3aou3aov.107800KYG1G2G4Hh2P7M3KI3G
qM3KI2G2KF3G4Hu3HuG0GU.107873SRKn5G0JSGU6Lo3a0fKn3HbG0Io5GU6G6Io3I4GH3JzI4HmGH3a7CKn3aXwK43G4HO3HO
G0GU3G4HOG0GU3HVG0GV3G4HV3XvG0GU3OPI6G0GVG6GU3aS1Kn3aSCKn3GjG0Pv3G4GjG0Pv3GjG0JSGUG6Pv3a8w4G0JSGU3
HqHd5G0Pv3GDG0GV3G4Jf3JzJo3Ie3HqGcG0HrNG8G6JSGU3GcG0Io5To3G4Gc3abcKnG0Lo3aDaKn5G0JSGU3a4NKn3HSG0JS
GU3HTG0G8GU.107B23G4Hd2KoICG0GV2I4KoICG0GV2a5bPx2a6cPx2aRQPx2aHgPx2JSPxG0JSGU2G2GeG0Lo.108000bLuNM
GC2GH2GK2GD2GB2IG.108082Q5.1080A2Gv2MB2MC2LJ2MJ2H62O22Mw2ML2LV2H72KX2Kh2Lu2Jm2H82KZ2KD2JY2KK2Gy2JB
2JR2N02P02H22N12NI2L32Lx2HH2Ly2Lm2LM2MF2HI2Jx2N52GO2LO2IH2LG2M62Ld.108372OD2Wz.1083C2J9.1083F2Pt0b
orathG1N73N83NU3QZ3JX3Jq3Of3Ny3R03OF3NZ3O13Mb3JA3Ng3PF3JB3O93T83P23Kb3Nk.108572LYG52ITGF3GE3GN3Hs3
Ja3GFGr4H53HsH50cL6G1N72N82NU2QZ2JX2Jq2Of2Ny2R02OF2NZ2O12Mb2GIJA2JA2Ng2PF2JB2O92T82P22Kb2Nk1MKa7G1
LWa7G1ITGF2GE2GN2GT2GX2Hs2Ja0c9zG1GIN72N72GIN82N82NU2QZ2GIJX2JX2Jq2Of2Ny2R02GIOF2OF2GINZ2NZ2GIO12O
12GIMb2Mb2GIJA2JA2Ng2PF2JB2O92T82P22GIKb2Kb2Nk.108A71ITGF2GE2GN2GT1bLTITGT1ITGX2Hs2Ja2GFGr.108E00b
hkG1N72N82NU2bNl2JX2Jq2aep2Ny2R02OF2NZ2O12Mb2JA2Ng2aIL2JB2O92T8.108F42Kb2Nk.108FB1ITGF2GX2Hs2Ja2GF
Gr0cNGG1asJ2V42bdR2bOv2JX2aE32d9O2aOy2Ug2RB2KW2bxP2Mb2JA2cch2K82JB2aYm2aBJ2cUr2Kb2N41ITGF2Hs2Ja2GF
Gr2GE2GN.1091F1OCKT0c0DG1GC2Hu2HO2Hb2GH2HT2GK2Hd2HR2Gj2HB2H12GD2Gc2a452HS2GB2IK2Ie2Ge2aDd2KA2J42a9
82Ye2Hj.1093F1M3GL.109800c5ObitG1GC3GH3GK3GD3H93IH3He3ayP3Gy3H73H83aUB3KZ3aUR3H23aXo3H63IP3Re3HH3a
Yl3Ly3Gv3MN3HI3abO3Jx3abf3GO3HM2GWcxn3cxo1bLiG1GC3GH3GK3GD3H93IH3He3Gy3H73H83KZ3H23H63IP3Re3HH3MQH
H3Ly3Gv3MN3HI3Jx3GO3HM.109BC2MXPPR63GFGq2YLcUU3boo2ITGF3GE3GN3GT3GX3Gg3Go3Gh3Gt3Hs3Ja3M23Mo3KB3NJ3
K5.109D23GFGr3GEGr3GNGr3GTGr3GXGr3GgGr3GoGr3GhGr3GtGr3GFH53GEH53GNH53GTH53GXH53GgH53GoH53GhH53GtH5
3HsH53JaH53M2H53MoH53KBH53NJH53K5H53NvH53JnH53GFGrH53GEGrH53GNGrH53GTGrH53GXGrH53GgGrH53GoGrH53GhG
rH53GtGrH52MXGFcsI3GER63GNR63GTR63GXR63GgR63GoR63GhR63GtR63HsR60bt6G1GC1HGG5GK3GB3IhGc.10A053GH3GD
.10A0C2O3GL1G5GJHLGG2J12Jy1G1Gv2IP2HU2J5.10A152II2IM2IG.10A192IN2J22JV2J32Jc2JI2HI2Ia2HM2J62H82Gy2
In2He2JJ2H72H92H22H62Is2IA2JZ2HH2J92Gs2a8a2cri2acn2cxk.10A381G5GlG92b3J2GMGG.10A3F1Jb1HKGF2GE2GN2G
T1ITHs2Ja2GFGr3H51MXGFGq.10A501JMGM2G2Gz2Gz2VFGl2c3v2a2H2KV2GJKV2aRm.10A600IrJNaHzG1JX4O14Ny4Mb4T8
4Jq4Kb4P24N84Nk4aBh4NZ4JA4bt94O94Ng4PS4HC4aIL4bPJ4NU4QZ4bej4R04aep4bPM4OF4co34coA3ITGF4KB3aVISe1J7
aHzG1Kg4Jt4Hc4Gk4LB4Jq4bXx4KS4MG4Me4bXw4KW4Jk4Iq4Lk4bXy4Li4HC4K84MV4bdt4OM4NA4Ku4OG4Uh4H34Pp4QO3IT
GF4Hs4Ja.10AC00c3xG1N72N82aIx2NU2beu2QZ2JX2Jq1G5Mg1G1Of2d9q2bq22bqC2Ny2R02OF2NZ2d5Y2aQe2O12bPN2co0
2Mb2JA2Ng2PF2ape2JB2PS2O92T82d5s2cQc2P22Kb2ciM2Nk1MhGLG93GG.10AEB1ITGF2GX2Hs2Ja2GFGr1JMIg2a7G2GJGM
UrGM2GMUrGM32GEH02I8RX.10B000auyG1GC2Hh2a002apZ2KA2aHI2KF2aHR2GH2JP2GD2J82GK2I02GB2IE2MB2Wz2aeD2d6
02Qi2a7Y2Mr2RI2PX2Jx2Jp2Lp2XY2ZT2JB2PS2Np2a0F2aUe2cCk2cCj2KZ2aAI2cEQ2KX2bjk2d8b2Nn2Nm2N12O22Ly2M72
K62No2cfY2ciL2JX.10B391MhGL0ZQGEH0H4GFGMJM0G2GEH0H4GFGMJM0IJGEH0H4GFGMJM1GFGMH4GEH0JM1GEaYOH4GFHLJ
M1GFHLH4GEaYOJM0bpGcLlG1N73N83NU3QZ3JX3Jq3Of3Ny3R03OF3NZ3O13Mb3JA3Ng3PF3JB3O93T83P23Kb3Nk.10B582IT
GF3GE3GN3GT3Hs3Ja3GFGr4H51aW3G1N73N83NU3QZ3JX3ado3Of3Ny3R03OF3NZ3O13aTM3JA3Ng3JB3O93Kb3Nk.10B782IT
GF3GE3GN3GT3Hs3Ja3GFGr4H50cPSaW3G1N73N83NU3QZ3JX3ado3Of3Ny3OF3NZ3O13aTM3JA3Ng3JB3O93Kb3Nk.10B992LY
GL2HqLYGL2GTH0G0JD5GM.10BA92ITGF3GE3GN3GT3Hs3Ja3GFGr.10C000Ircs6G1KiGC3KxGC4KF3KiGK3KxGK4GH3KiGD4J
f3KxJf3KiRD3KxRD3KiaHP3KxaHP3KiZw3KxZw3KiaHS3KxaHS3KiUu3KxUu3KiarP4Xh3KxXh3KiPE3KxPE3KiaHW3KxaHW3K
iaHT3KxaHT3KiaVd3KxaVd3KiRE3KxRE3KiarS4bXH4Mm4KA4Uv3KxUv3Kia0v3Kxa0v3Kia0u3Kxa0u3KiVU3KxVU4PD3KiPQ
3KxarT3Kia0w4aAO4a7z4Xf3KxXf3KiX93KxX93Kia8A3Kxa8A3KiaAR3KxaAR3Kia5J3Kxa5J3KiarU4OH4arW4JF3KxJF3Ki
Mn3KxMn3KiLQ3KxLQ3KiaHV3KxaHV3Kia2t4az0.10C801blzG4G1GC4Hh4a6y4aHh4Xf4a0u4aMQ4aMR4G64GH4a64GH4JP4Q
c4aMS4aMU4Qd4GK4I04aMc4VT4Zx4adJ4Lq4aMf4Mm4J44VU4GD4J84a2gJf4a3eJf4aVc4a0w4aMi4Nx4J0Nx4Q04aMx4Ol4a
0v4aMz4VS4GB4IE4a2gLn4a3eLn4a754Xh4aN64aMoG54Wt.10CC02G2G1GC4Hh4a6y4aHh4Xf4a0u4aMQ4aMR4G64GH4a64GH
4JP4Qc4aMS4aMU4Qd4GK4I04aMc4VT4Zx4adJ4Lq4aMf4Mm4J44VU4GD4J84a2gJf4a3eJf4aVc4a0w4aMi4Nx4J0Nx4Q04aMx
4Ol4a0v4aMz4VS4GB4IE4a2gLn4a3eLn4a754Xh4aN64aMoG54Wt.10CFA2ITGF3GX3Hs3KB3GFGr4H50bhXaYUG1GC3He3Gy3
HI3J23IG3II3Gs3IP3JW3HM3J33H23MO3J93HH3IA3Gv3HU3H63H73H83IH3aQiIH3H93aQiH93I93IN3Is2HGGC3GK3GB3GH3
GD2GLcXI3H8btG2G5bhc3cmb3cmm3cn0.10D302HKHg3GF3GE3GN3GT3GX3Gg3Go3Gh3Gt.10E600cVaHKGF2GE2GN2GT2GX2G
g2Go2Gh2Gt1ITHs2Ja2M22Mo2KB2NJ2K52Nv2Jn2GFGr2GEGr2GNGr2GTGr2GXGr2GgGr2GoGr2GhGr2GtGr1MXGFGq3KE3P82
GES3.10E800d7WG1bXF2Np2JB2aAo2Jp2Ly2XN2b4l2b4e2Re2OD2OM2a502H22Rw2J92IG2a3x2Kb2Lk2MV2HI2M72aN52d5f
2JW2Is3LeG32LB2KW2bt12Vf2Jt2a2P2JA2ZY2Jq2Yo2a762bho2Zp2Ol.10EAB1JiJvGL2RoGL1aPWGL.10EB01G1JtG0GMG9
2ZpG0HvG9.10F000IraCOG1N73GIN73N83GIN83NU3JX3GIJX3Jq3Of3Ny3OF3NZ3O13Mb3JA3GIJA5G0GdIo3Ng3PF3LePF3J
B3O93GIO95G0GdIo3cTP3Kb3Nk3GINk5G0GdIo2ITGF3GE3GN3GT3GX3Hs3Ja3M23GFGr2MXGFGq2KCav6.10F300aCOG1N72N
82NU2JX2Jq2Of2Ny2OF2NZ2O12Mb2JA2Ng2PF2JB2O92cTO2Kb2Nk2baV2aRc1SdKb1JiGMGG2GEH0GG2GMG92GEH0G92MlG93
GG2GUG93GG2HrGUGG2P2GG2GVGG1ITGF2Hs2Ja2GFGr1JMGEGda0C5G0H02GzG0GM2GEOgG0H02GqGzG0GM.10F700Ircv1G1N
73N83bf93Jq3Of3GINy3OF3NZ3O13Mb3JA3Ng3JB3O93P23Kb3Nk3aRc2JiGMG94GG3GEH0G95GG2JMGl3GEa0C4H03GTH0.10
FB00b53G1N72G2N72N82NU2QZ2JX2Jq2bLfJq2Of2Ny2OF2NZ2O12Mb2JA2Ng2PF2JB2P22Kb2Nk1ITGF2GE2GN2GT2Hs2Ja2G
FGr.10FE00bXIG1N72N82NU2QZ2JX2Jq2Of2Ny2R02OF2NZ2O12Mb2JA2Ng2PF2JB2O92T82P22Kb2Nk1KCd9c.110000b17G5
KM2J12Jy2Vz2Ws1G1GC2Hh2GK2I02GB2IE2IhGc3Jg3Gj3K12GH2Hz2GD2I72Gv2IP2HU2J52I92II2IM2IG2Jw2IN2J22JV2J
32Jc2JI2HI2Ia2HM2J62H82Gy2In2He2JJ2H72H92H22H62Is2IA2JZ2HH2Gs2Ks2IrUdU64MO4Yf1HGG5Hh3b03Hh3GK3I03G
B3IE3IhGc4Jg4Gj4K13GH3Hz3GD3I71Jb1KV1GJKV1JMGM2GJGM2I82VFGl2a2H.110521ITGF2GE2GN2GT2GX2Gg2Go2Gh2Gt
2Hs2Ja2M22Mo2KB2NJ2K52Nv2Jn2GFGr3H51HKHg2GF2GE2GN2GT2GX2Gg2Go2Gh2Gt1G5IrUdJb1G1IrUdJ0GH5GD1HGG5IrU
dJ0GH6GD1G1IrUdKs.1107F1ITTy0brqG5KM2J12Jy1G1GC2Hh2GK2I02GB2IE2GH2Hz2GD2I72Gv2IP2HU2J52I92II2IM2IG
2Jw2IN2J22JV2J32aLI2Jc2Rw2JI2HI2Ia2HM2J62H82Gy2In2He2JJ2H72H92H22H62Is2IA2JZ2HH2Gs1HGG5Hh3GK3I03GB
3IE3GH3Hz3GD3I71G5Jb2LK1MhG51bXcG51ITG51LYGL1GJLYGL1KV1GJKV1HGG5IhGc.110CD1ITG5G9.110D00chIchBG1aY
o3Ku3ayc3b2h3bNe3aNn3aSz3cBi3bwb3a9m3adS3cKu3a4u3cSJ3Hc3aQL3bpu3cGg3PC3bWr3a813aDn3Yi3Qd3aSw.110F0
2HKHg3GF3GE3GN3GT3GX3Gg3Go3Gh3Gt.111000b48G5KM2J12Jy1G1Hh2GK2GB2GH2a1m2aQb2Xl2aOB2a2b2a5r2aK52aPx2
bqA2aVS2ach2aDf2aLF2aLK2cEO2Ua2ZO2aKv2bPH2WG2a2v2aWc2a062b002a992d8a2X02Z12YJ2Zf2a3g2Rc1HGG5GC3GK3
I03GB3IE3GH3Hz3GD3I73Yj1GDGL1I7GL1Jb1c3K.111361HKHg2GF2GE2GN2GT2GX2Gg2Go2Gh2Gt1LYGL1KV1GJKV1KkGL1G
1aRf1HGG5Hh3RQ1G1adR.111500c3bG1GC2GK2GB2GH2GD2Gv2IP2HU2J52II2IM2IG2Jw2IN2J22JV2J32Jc2JI2HI2Ia2HM2
J62H82Gy2In2He2JJ2H72H22H62Is2HH2Gs2MO1G5LK1MhG51LYGL1KCaZT.111800ceJG5KM2J12Jy1G1GC2Hh2GK2I02GB2I
E2IhGc3Jg3Gj3K12GH2Hz2GD2I72Gv2IP2HU2J52I92II2IM2IG2Jw2IN2J22JV2J32Jc2JI2HI2Ia2HM2J62H82Gy2In2He2J
J2H72H92H22H62Ks2Is2IA2JZ2HH2Gs1HGG5Hh3GK3I03GB3IE3IhGc4Jg4Gj4K13GH3Hz3GD3I71G5Jb2NR2Vz2Ws1Ov1KV1G
JKV1MhG51KT1ZCGL1G5LK1HGKYGL1bYcJ0HGGL1ckTGL1HGG5aB9GH1G5IOKM1HKHg2GF2GE2GN2GT2GX2Gg2Go2Gh2Gt1bX31
G5UU1a7n1bKjG51LYYP2YQ.111E10aZiMQHKGF3GE3GN3GT3GX3Gg3Go3Gh3Gt2ITHs3Ja3M23Mo3KB3NJ3K53Nv3Jn3GFGr4H
5.112000btDG1GC2Hh2GK2GB2GH2Hz2GD2I72Gv2IP2HU2Vh2J52I92II2IM2IG2Y5.112132IN2J22JV2J32Jc2JI2HI2Ia2H
M2a0c2J62H82Gy2In2He2Tf2JJ2H72H92H22H62Is2HH2Gs2Ks1HGG5Hh3GK3I03GB3GH3Hz3GD3I71G5J12Jb2LK2WZ1KV1GJ
KV1OCKT1LYGL1GJLYGL1MhG51G5UZ.112800c8RG1GC2GK2GB2GH2Gv2IP2HU.112882J5.1128A2II2IM2IG2Y5.1128F2IN2
J22JV2J32a0c2Jc2JI2HI2Ia2HM2J62H82Gy2In2He.1129F2JJ2H72H92H22H62Is2HH2Gs2MO2Rw1LYGL.112B00btMG1GC2
Hh2GK2I02GB2IE2GH2Hz2GD2I72Gv2IP2HU2Vh2J52I92II2IM2IG2Y52Jw2IN2J22JV2J32a0c2MO2Jc2JI2HI2Ia2HM2J62H
82Gy2In2He2Tf2JJ2H72H92H22H62Is2IA2HH2Gs1G5J11HGG5Hh3GK3I03GB3IE3GH3Hz3GD3I71G5LK2Jb.112F01HKHg2GF
2GE2GN2GT2GX2Gg2Go2Gh2Gt.113000a7fG5JiJ1G92KM2J12Jy.113051G1GC2Hh2GK2I02GB2IE2IhGc3Gj.1130F2JP2Hz.
113132J82I72Gv2IP2HU2J52I92II2IM2IG2Jw2IN2J22JV2J32Jc2JI2HI2Ia2HM2J62H8.1132A2Gy2In2He2JJ2H72H92H2
.113322H62Ks.113352Is2IA2JZ2HH2Gs.1133B0Jia5cGG0a7fG5LK2NR1HGG5Hh3GK3I03GB3IE3IhGc4Jg.113473JP3Hz.
1134B3J83I71G5Jb.113501Ov.113571I7O3GL.1135D1G5aX31G1ZdJ13GJJ12IhJg3K11HGG5IhGj4K1.113660Jia7fHKHg
3GF3GE3GN3GT3GX3Gg.113702G1GC3Gv3H83S63Gy.114000cBeG1GC2Hh2GK2I02GB2IE2IhGc3Jg3Gj3K12GH2Hz2GD2I72G
v2IP2HU2J52I92aUk2II2IM2IG2Jw2IN2aVV2J22JV2J32Jc2JI2HI2Ia2HM2J62H82WL2Gy2In2He2JJ2H72aTV2H92H22Rw2
H62Sk2IH2IA2JZ2HH2Gs1HGG5Hh3GK3I03GB3IE3IhGc4Jg4Gj4K13GH3Hz3GD3I71G5Jb2KM2J12Jy2LK2NR2GIJ11Ov1cfn1
KV1GJKV1IZ1XmRX1MhG51HKHg2GF2GE2GN2GT2GX2Gg2Go2Gh2Gt1GJIZ1aAwGL.1145D1a87G51ZCGL1G1ZdJ11G5Vz2Ws.11
4800cpFa5H1G1GC2Hh2GK2I02GB2IE2IhGc3Jg3Gj3K12GH2Hz2GD2I72Gv2IP2HU2J52I92II2IM2IG2Jw2IN2J22JV2J32Jc
2JI2HI2Ia2HM2J62H82Gy2In2He2JJ2H72H92H22H62Is2IA2JZ2HH2Gs1HGG5Hh3GK3I03GB3IE3IhGc4Jg4Gj4K13GH3J0GH
3Hz3GD3J0GD3I71G5KM2J12Jy2Jb2LK2NR1bgW1MhG51Ov.114D01HKHg2GF2GE2GN2GT2GX2Gg2Go2Gh2Gt.115800UUG1GC2
Hh2GK2I02GB2IE2IhGc3Jg3Gj3K12GH2Hz2GD2I72Gv2IP2HU2J52I92II2IM2IG2Jw2IN2J22JV2J32Jc2JI2HI2Ia2HM2J62
H82Gy2In2He2JJ2H72H92H22H62Is2IA2JZ2HH2Gs1HGG5Hh3GK3I03GB3IE3IhGc4Jg.115B83GH3Hz3GD3I71G5KM2J12Jy2
Jb2LK2UU1KV1GJKV1KTGM2Gl1aBSYP2YQ2aT51JsGRR1GL1LYGLG0a4bG6ZXcK46JlSM4WTG6JlSM7GJSM7JESM3GJHL5G0WT3
G0GJSM4JESM4QBSM4ccpSM4OgG6WT6GEaMl6GTaMl1G1coPLeGK2ad1LeGK4I02LeGB1HGG5LeGB4IE.116000c7OG1GC2Hh2G
K2I02GB2IE2IhGc3Jg3Gj3K12GH2Hz2GD2I72Gv2IP2HU2J52I92II2IM2IG2Jw2IN2J22JV2J32Jc2JI2HI2Ia2HM2J62H82G
y2In2He2JJ2H72H92H22H62Is2IA2JZ2HH2Gs2Ks1HGG5Hh3GK3I03GB3IE3IhGc4Jg4Gj4K13GH3Hz3GD3I71G5J12Jy2Jb2a
ti1KV1GJKV1MhG51G5bm8.116501HKHg2GF2GE2GN2GT2GX2Gg2Go2Gh2Gt.116600aToQVG0Iy1IWQV1GJQVG0Iy1JEQVG0Iy
1QVG0GJIy1IWQVG0Iy4GJIy1IOQV3G0GJIy1aCrQV3G0Iy4GJIy1HqaCrQVG0GJIy.116800cmiG1GC2Hh2GK2I02GB2IE2GH2
Hz2GD2I72Gv2IP2HU2J52I92II2IM2IG2Jw2IN2J22JV2J32Jc2JI2HI2Ia2HM2J62H82Gy2In2He2JJ2H72H92H22H62Is2IA
2HH2Gs2MO1G5J12Jy1HGG5Hh3GK3I03GB3IE3GH3Hz3GD3I71G5Jb2LK1G1MQIP1MhG5.116C01HKHg2GF2GE2GN2GT2GX2Gg2
Go2Gh2Gt.117000arqG1Gv2IP2I92H82HI2LeHI2Gy2In2He2H72IG2IM2Ia2H22H62HH2IN2Gs2GC2HM2J62HU2LeHU2J52JJ
2Jw2LeHe.1171D1LfG5HfH64H24byeH21HGG5GC3Hh3GK3I03GB3IE3GH3a5M3GD3Hz3QQ1G5btm.117301HKHg2GF2GE2GN2G
T2GX2Gg2Go2Gh2Gt1ITHs2Ja1G5G2LY2LY2cVX1GWS61G1II2J22JV2J32Jc2JI2Ks.118000bQeG1GC2Hh2GK2I02GB2IE2GH
2Hz2GD2I72Gv2IP2HU2J52I92II2IM2IG2Jw2IN2J22JV2J32Jc2JI2HI2Ia2HM2J62H82Gy2In2He2JJ2H72H92H22H62Is2I
A2JZ2HH2Gs2MO1HGG5Hh3GK3I03GB3IE3IhGc4Jg3GH3Hz3GD3I71G5J12Jy2Jb2LK1MhG5.118A00d3sb5fG4G1a2b4GC4M64
Ju4H94KL4I04IE4GH4GD4PD4HU4LJ4VU4aec4a4i4a714UF4ZT4aAF4HM4LQ4QQ4MU4P04aPA4aPH4aPL4Vm4aaV4ZI4ade2G2
G1a2b4GC4M64Ju4H94KL4I04IE4GH4GD4PD4HU4LJ4VU4aec4a4i4a714UF4ZT4aAF4HM4LQ4QQ4MU4P04aPA4aPH4aPL4Vm4a
aV4ZI4ade2HKHg3GF3GE3GN3GT3GX3Gg3Go3Gh3Gt2ITHs3Ja3M23Mo3KB3NJ3K53Nv3Jn.118FF2Ov0bQKas6G1GC3Hh3GK3I
03GB3IE3GH.119093GD.1190C3Gv3IP3HU3J53I93II3IM3IG.119153IN3J2.119183J33Jc3JI3HI3Ia3HM3J63H83Gy3In3
He3JJ3H73H93a4z3H23H63Is3IA3JZ3HH3Gs3Ks3J92HGG5Hh4GK4I04GB4IE4GH.119374Hz4GD.1193B2G5J13KM3a7k2Jb2
aXFaUJG52HfH92GYH22HfH22G5LK2GJKV2XmRX2JsGRR1GL.119502HKHg3GF3GE3GN3GT3GX3Gg3Go3Gh3Gt.119A00cA8G1G
C2Hh2GK2I02GB2IE2IhGc3Jg.119AA2GH2Hz2GD2I72Gv2IP2HU2J52I92II2IM2IG2Jw2IN2J22JV2J32Jc2JI2HI2Ia2HM2J
62H82Gy2In2He2JJ2H72H92H22H62Is2IA2JZ2HH2Gs2Ks2MO1HGG5Hh3GK3I03GB3IE3IhGc4Jg.119DA3GH3Hz3GD3I71G5J
12Jy2Jb2NR2UU1a7n1HGG5aB9GH.11A000d9SGxG1GC2HGG5GK4Ln4GB4GH4Jf4GD4Hz4I74I4GK3O3GL2G1Gv3IP3HU3J53I9
3II3IM3IG3IN3J23JV3J33Jc3JI3HI3Ia3HM3J63H83Gy3In3He3JJ3H73Kc3OB3Ok3Xd3M83J93Ut3H93H23H63Is3IA3JZ3H
H3Gs3YH2GILfGL2G5Jb3KM4G0Iy3NtG0Iy3J13Jy2aKQG1H22b65G1H94H24H64Is2GYMYGL2XQMYGL2GLQI3Nh3GJNh3HrQI2
GYaLyMYGL2XQaLyMYGL2aah.11A500chQG1GC1HGG5GK3Ln3GB3GH3GD3Jf3Hz3I73IhGc4Gj2O3GL1G1Gv2IP2HU2J52I92II
2IM2IG2Jw2IN2J22JV2J32Jc2JI2HI2Ia2HM2J62H82Gy2In2He2JJ2H72Kc2OB2Ok2M82J92Ut2H92H22H62Is2IA2JZ2HH2G
s2YH1G5Vz2Ws1aKQG1H23H63IA3HH1GILfG5HO4HR4Mc4Hb4H14Hu4HB4Gc4Gj4UQ4Ge4Ut1G5J12Jy1XoGL1aah1GLQI2Nh2G
JNh2aX31MYGLG0LAG6QHG6JEaNJ8aNJ71cnhYP2YQ.11AB00a5waCscAFKq3aP53L83Xy3Gs3Rc3aZT3cfB3cfD3cfE3cf93cf
A2chW2chc2chk2aaE0cM4b5YaOoG1Gy4Gv4H64H74HM4J94Is4I94Gs4HU4IP4HH4He4II4HI4Ia4H84In4H24JW4IM4GC4GH4
GK4GD4GB4Wq4a1b4GIHo5HR5HS5HB5H15Gj5Hy5Mc5Hd3P3HxHr53ZCKoIC3P3HxHrGI5GI3ZCKoICGI4HxHr55HrGI5GI3aTX
Hx3KoICM43aTXHxHrGI5GI3aRzHxHr53KoIC3aRzHxHrGI5GI3KoICGI.11C000b01G1GC2Hh2GK2I02GB2IE2IhGc3Jg3Gj.1
1C0A2GH2Hz2GD2I72Gv2IP2HU2J52I92II2IM2IG2Jw2IN2J22JV2J32Jc2JI2HI2Ia2HM2J62H82Gy2In2He2JJ2H72H92H22
H62Is2IA2JZ2HH2Gs1HGG5Hh3GK3I03GB3IE3IhGc4Jg4Gj.11C383GH3Hz3GD3I71G5KM2J12Jy2Jb2NR1KV1GJKV1OCKT1Xm
bah2bai.11C501HKHg2GF2GE2GN2GT2GX2Gg2Go2Gh2Gt1ITGF2GE2GN2GT2GX2Gg2Go2Gh2Gt2Hs2Ja2M22Mo2KB2NJ2K52Nv
2Jn1a7wZaGL.11C700c4CMYGL1GLNh1G1Gv2IP2HU2I92II2IM2IG2IN2HI2Ia2HM2H82Gy2In2He2H72Kc2OB2Ok2IH2M82J9
2Ut2H92H22H62IA2HH2Gs2GC.11C921WgG1Gv3IP3HU3I93II3IM3IG3IN3HI3Ia3HM3H83Gy3In3He3H73Kc3OB3Ok3IH3M83
J9.11CA93H93H23H63IA3HH3Gs3GC1HGG5Hh3GK3GB3GH3GD1G5J12KM.11D000c4NaOJG1GC3Hh3GK3I03GB3IE3GH.11D083
Hz3GD.11D0B3I73Gv3IP3HU3J53I93II3IM3IG3Jw3IN3J23JV3J33Jc3JI3HI3Ia3HM3J63H83Gy3In3He3JJ3H73H93H23H6
3Is3IA3JZ3HH3Gs3Ks3YH3aQA3aDU2HGG5Hh4GK4I04GB4IE4IhGc.11D3A4GH.11D3C4Hz4GD.11D3F4I72G5J13Jy3LK3Nt3
a7k2Jb2cTL2cSB.11D502HKHg3GF3GE3GN3GT3GX3Gg3Go3Gh3Gt.11D600bgIaOJG1GC3Hh3GK3I03GB3IE.11D673JP3Hz.1
1D6A3J83I73H93Is3He3JJ3H73Gv3IP3HI3Ia3H63HU3J53HM3J63H83II3IM3J23JV3Ks3IG3Jw3J33Jc3I93Gy3In3Gs3H23
HH2HGG5Hh4GK4I04GB4IE.11D904JP4Hz.11D934J84I72G5J13Jy2Jb2Ov.11DA02HKHg3GF3GE3GN3GT3GX3Gg3Go3Gh3Gt.
11EE00c3nG1Gv2HU2I92Gy2He2H72HI2HM2H82II2IG2IN2H92H22H62Is2HH2GC1asq1HGG5GK3GB3GH3GD1cLu1JsGRLY.11
FB00aRqG1d7Y.11FC00UdMXGFcoS3aVm3bX03aCF3aNW3aD62GNaMa3cgQ2GFact3cgO3cgP3aD23Kz2GNacu3a3y2GFa7D3KE
3bhJ3bhK2GNO72bV3a7Abtk1G5aUU2b422apf2cv42c8p2bvX2cM12c8P2bre2cLF2aAz2cwU2cKk2bve2cwi1d4FaKiG51a6t
aKiG51bxQG51QvaAbG51cqBa6JG52ITG51a6NG51G6UFG51chaG51acIG51IlaXBG51cisKOG51G5c8n2cwO.11FFF1JMJsGRR
10aKkG5GC3GiGC4MS4MqJT4Gs4L94U4Iw4Ss4WU2a562RD3GiQS4a0lIw4Tr4MqJT4Gs4L9Iw4a824Pa4aBw4GBGmGBGmGB3Iw
2X43Gia094MqJT4KXGmJ44a3m4Nj2Uu2Zx3GiVW4aBzGmNV2RE3GiRE4a6i4NV4Gs4a1n4MC4K64TW2asA2N72a5E3GiK62KA3
H4KA3GNGi3Gma2XSyKAGma2X5K32a5I2atL2ata3GiNF2atp2auC2JF3aesJT3aQIJT3H4JFTTH4TTTTH4TTNd5H4JF7KNJFH4
JFH4JF2QS2a5L2He2MS2ayW2a5S2a083H4a082a092Gl2ayt2Nq3GiGC4L04L9Iw2MU3H4MURD5TV3KNMU2a5n3H4a5n2QW2b1
m2HM2a0a3YDGiGCGmU85a5E5a095Nq5HU6GmU85Ls5Vi5On5Gs5a1e6GmLV5Sh5H65LV6GmaT75Rn5KZ5NdGmNd5Lm5Nj5P9Gm
Vi5TW2bNm2aL52aL62bNt2MW2aLc2XZ3GiK62a6i2a6j3PYGBIwLh2Lh2NT3H4NT3Iw3TF2Xc3GiRT2bVE2VQ2bVH2bVI2a6u2
a0l3Iw4Iw2bVL2bVS2GH3GiNd3H4GHJAH4JA2Xe3GiGCGmGsGmHM4L04Kh4TA4K64GB2bWo2bWw2Lq2J43GiMq5JT4KX3KNJ43
SyJ43K32aMv2VW2RT2a793GiGC5GmQn7GiQn4KA4MS4a0lIw6Iw4Gs5Iw4L9Iw4PY5K34W84H64QnGiQn4Mw4LV4P94Mg2HU3I
w2a1F3GiGCGmHMGmGs6Gs6L94X4JTGmS14KA4JF4QSGmTr4MS4GlGmH24QW5GmH24HM4MW4XZGiK64Xc4Lq5GmH64J45GiMqJT
4MqJT4L04Ls4a1J5GmGC4ViGmMF4GsGmLVGmRT4Xs5GmH64KqGmMw4a7u4L9Iw4a8CGmOSGmJF4Sh4PY4a8W5GmQn4W8GmKA4H
64KXGmJ44Kh4JA5H4JA4Gy4TA4WX4K65GmZU4a3q4Wi4Nj4GB4Mg5GmNT3H4a1F2a7S3KNa7S2Ra3H4RaL0H4L02Tr3RaH4RaL
0H4L02bdN2bdO2Tt2Mq3JT3H4Mq3KNMq2L02bdV2bda2aO43GiNF2Ls3GiGH4GB3KNLs2a1J3H4a1J3KNa1J2bf12Vi3Iw2bfC
3GiGCGmL94MqJT4L94LVGmL94Gy2bfH2NV3KNNV3GiMS4Nj3JT2NW3KNNW2aOS3GiSh5GiL9Iw4JA4TAGmTT3Iw2On3GiGCGmN
F4NF3H4Ona2I2aOW2aOX3GiK62a1O2aOY2bgR2bgS2Gs3JT3Iw2Xs2Kq3GiJF4QS4MS4Lh4Ra4a8X4JA4K64GB2OS2a7u3GiKA
4Xs4PY4a904Mg2blx2GK3GC2a7y2aPf3H4aPfQW5K32aPi2L93aLc3NI3H4L9a3sH4a3sMgH4Mg3Iw2boZ3GiMqJT2boa2Rh3G
iNj3KNRh3SyRh3K32a822Il2a1e2a8C2Gv3GiGC4Uu5GmW84QS4MS4a094Gl4Nq4VW4RT4HU4Tr4MqJT4L05Gma3mGmGC4Ls4V
i4NVGmWX5KNNV4NW4aOY4L94Rh4Sh4MC4a8W4Mw4LV4KX5GmNT6Ls6Jx4Kh5GmaVJ4KZ4JA4JR4Lx4HH4WX4IA4K64a3q4OX4a
Zd4aal4Ue4GB4P94Mg4adFGiGy4TW4RC2aQF3KNaQF2aQH2aQJ2a1n2brm2aQK3H4aQK2Sh3GiL9Iw2a8L3GiMS3KNa8L2bru2
brv2PY3PaGiGBH4PaGiGB3H4PYPaGiGBH4PaGiGB2aQW2MC3GiMS4GB4Mg2a8W2a8X2btv2btw2YD3H4YD2MJ3H4KqGiQSMJH4
KqGiQS2W82bvD3M4G32bvE2aR33Iw2aR42NF3SyNF2YI2bvk2H62Pa3GiGC5GmHMGmGs6L06Qn4RE4KA4JFaesJT4MS4Nq4aL5
4J44HU4L04On5GmOn4Gs4Xs4KqGiJA4L9Iw4Rh5GmGs6LV4MC4a8X4W84aR35GmKqGmGC4Pa4a904LV4a964KX5GmJ44Ss4KZ4
K6GmWi4aBzGmNVGmVW7JT4UT5GmUT4Wi4ZM4Nj4JxGmGCGmMFGmH84GB5GmGC6GBGmGB4P9GmJF4Mg4TW3K32U43GiK65GmWi3
Iw4H4U4IwK62bwc2Qn3GiQn2Jt3GiNF5GmLx2Mw2byh2byr2a902LV3GiMS2YM3GiRE4MS4RT5JT4MqJT4KqGiMS4Rh4aQJ4a1
n5GmJF4MC4H6GmJF4Pa4KXGmJ44KZ4KK4LmGmJF4aZgGmMU4TT3JT3KNYM3SyYM3K33TF2WA2a2I3H4a2I3Sya2I3TF2a952a9
62Rn3H4Rn5L0H4L02H73GiNj3Iw2c3I2aSz2aT42U82aT72KX2a9Q2Kh2a2Q2Jm3H4Jm2a9c3Iw2c8Y2c8i2Ss3GiGC4NF4J93
H4Ss5GiGCGmH83KNSs2aU33GiGC5GmMW4MW3Iw2H82aUC2a2X3IO3GiOXJT3Sya2X2cA02cA5aVL32aUG2KZ3GiGC4Mg3TF2KD
3GiGH2cCx2cDD3GiMqJT4L0GmMqJT2aA53GiKA4JF5GmJF4On4KXGmMqJT4KZ4JA4K65GmGCKA6JF7GmJF4P9GmJF4TW2cDL2K
K2a2k2JA3U4GiL05U85TA6H4JAU4GiTA5TW3JT3H4JA3KNJA5U4H4U42aVJ3X4Gia5L5Nq5VQ5On5L9Iw5a1n5H65KZ5aZh5P9
3YDGiNq6GB2Gy2WO2aAb2Nd2aWZ2JR3GiGC4RD4Nq4MU4GH4GK4a7y4GB4P93KNJR2aWv3Gia8L4Mg4J93SyaWv2H22cSF2NI2
Lx2HH2WUaVL33GiGC4NT4Xc4Gs4Sh4NF4Rn4Kh4JA4TA4a3q4S14P94ad94ZY4Uo4TW3H4WU3Iw2TA3PaGiQS2cXb2WX2IA2a3
m3GiGC4MS4NV4KZ4UT4ZU4GB5GmGC2aZF2ce92Qx2K63OS3H4K6RaH4RaL0H4L05S1H4S1L0H4L02ceT2ceU2aBw2ceX2ceY2a
3q3GiGC4Rh2aZO3GiGC4a084a5n4a6j4L04L95Iw4YI4a964a9c4TA2ceh2a3s3JT3H4a3sQWH4QW2aBz2OX3H4IOOX2UT2cfH
2Lm3Iw2aZd2aC73H4aC7UT2aZg2aZh2MF3H4MF2ck52ck62aal2Wi2ck82a4F2ckM2HI3JC3GiKq4Kh3Iw2S13H4S1KDH4KDLh
H4Lh3K32ZM3GiNq4On4K64OX4TT4Mg2Nj2Ue2Jx3Iw2N53JT2aDG2aDJ3GiNj3H4aDJ5RaH4RaL0H4L02LO2TT2acp2a4g2ZU3
H4ZUJ9H4J92GB3On3GBGB3H4GBGyH4GyL0H4L05a4FH4a4F5GBI4H4GBI42P92ad92Mg3YI3GiMS4Kh4GBGmGBGmGB9Iw3Iw3T
F4GiMS2ctt2ZY3GiPa4KXGmHM4a3m4GB2cuD2adF3GiPY4Gy2TV3Iw2Uo3KNUo3TF2aDs3GiGCGmGs6H84RE4Gs4JA4P95GmJF
6Nq2cuc2cue2cuf2adO3GiGC4a5L4Gl4a6u4HU4Tr4MqJT4L04NW4Gs4L94Rh4a8C4MC4Rn4a2Q4Gy4K64aC74LO4GBGmOn4Mg
4Zb2Zb3GiGB2TW3GiGC4MJ4NF4Nj2cup2cum2cuo2cus2cv33GiPY2cv52J93JT3K3GiNF2d9N2d9R2d9d2RC3H4RC2dAF2dAG
3aQIJT2dAK2aet2Pu2aey3GiGC2dAd2dAe2aQNaMd2RDGiJA2X4GiGC2a5EGibvL2a0aYDGiP9GmU82bNZ2LhGmOX2XcGiK62a
79GiOn4K62a1FGiKAGmShGmGC4QS2bdo2bf72bm52GvGia5I4auG4NV4On4KqGiQS4Rn4Gy4cfL4LO4aDs2PaGiLs2YMTFGiMS
3GiRTGmQn4OX2aTP2aU3GiJ92c9w2aA42cDE2aA5Gia084Ls2a2kIWJnIv2aWZJC2cNr2WUGiL9Iw2cos2ZYGiKX2GBGB.1240
01aVIG5GEJF3GNJF3GTJF3GXJF3GgJF3GoJF3GhJF3GtJF3GNLh3GTLh3GXLh3GgLh3GoLh3GhLh3GtLh3GTGB3GXGB3GgGB3G
oGB3GhGB3GtGB3GFRb3GERb3GNRb3GTRb3GXRb3GgRb3GoRb3GhRb3GtRb3GFXq3GEXq3GNXq3GTXq3GXXq3GEQx3GNQx5M4G3
3GTQx3GXQx3GgQx3GoQx3GhQx3GtQx3GFZG3GEZG3GNZG5M4G33GTZG3GXZG3QxGiTrGmLh7a2Q3GFXJ3GEXJ3GNXJ5M4G33GT
XJ3GXXJ3GNM4G3bY36bY43GTM4G3aRk6bys6aRkGC7Hu3GgM4G3auH3GoM4G3bom6a82GC7Hu3GhM4G3cuq6cur3GtM4G3aPl6
bob6boc6aPlGC3GEJFJT3GNJFJT3GTJFJT3GXJFJT3GgJFJT3GFXC3GEXC3GNXC3GTXC5M4G33GXXC5M4G33cD83cD73GFaMw3
GEaMw3GFP8Lh3GES3Lh3GXaZqLh3GFP8M4G3GC3GES3M4G3GC3GFKzJF4KEJF3IraIAGFaCE6KE3GFKEa1O4Gqa1O3aMdGFP84
GES34Mo4KB3GTGBM4G33GXGBM4G33GgGBM4G33GoGBM4G33GhGBM4G33GtGBM4G3.124701JMG5IraIAOCVN3GdKI3JHKI4acT
4cQx.124801G5RDGiJAJT4UT2UuGiRT2MSGiLhJT2a5SGiX44KD4J92MUH4MUGiaUC2HMGiNj2a0aGiNF2XZGiL94GBGBGB2a6
iGiMg2VQGia5I4JF5LQGA4a6j4a6u4VW4HU4Ls4ViIw4NV4Gs4Kq4L9Iw4PY4NF4YI5GmPY4bwf4Jt5GiNF4a95GmNV4U84a9Q
4Kh4KD4JR4K64LmIw2XeGiNF4Nd2VWHt2RTKNRT2a79TFGiJF5Kq5L9Iw5H65Qn5KX5a9Q5MF3GiMF2a1FGia5S4XZIw4VQGiL
9Iw6PY4aMv4HU4L0GmMW6KZ4GsGmGC4YIGmPY4Jt5GiNF4a954Ss4KZ5GmXe6Ls4aZO4aet2a7SIWJnIv2aO4GiGB2NVGiNVKN
NV2aOSGiL9Iw2OnGmNVGiNj2GsJTIw2KqGiJFH4KqGiJF2GvGiMU4Gv4GBGBGB4Uo2PaGiPuH4Pu2bwe2bwg2bwh2bwi2aRE2b
wj2bwk2aRFH4aRFIw2bwl2aRGH4aRG2bwm2bwn2bwo2bwp2bwq2bwr2bws2bwt2bwu2bwv2bww2bwx2bwy2bwz2bx02bx12bx2
2bx32bx43GiNW4L94NdGmWA6NdGmWA4P9GmHe2bx52bx62bx72bx82bx92bxA2bxB2bxC2bxD2bxE2bxF3GiJF4MS4a0lIwIw4
W84H64Ue4Jx4P94Mg4Zb2bxG2bxH3GiXc4HU4L95Iw4KD4NdGmNdGmWA4aBwGmMC4Mg4Zb2bxJ2bxK2YMIwGiJF3GiLh4Xs4Nd
5GmNdGmWA4Nj2KhGmaem2SsH4SsGiHU6Sh2aA5GiXZIw4NV4aOW4Kq4aQW4aRE4U84NdGmNd4GB5GmGB4Zb2WUIwGiGs3GiJ44
K6LQGA4Nj2aZFJT2K6H4K63Gma7u4aUG4WX2UTGmVQGiKD4XeGiKA2LmGiNj2NjGmWU2a4gGiMqJT4GNLh2aDsIO3GiMg2adOG
iaL64bxI4WA2aem2PuH4PuGmWX2aeyGiGNLhJT.12F900bLvG5b662b672b682b692b6A2b6B2b6C2b6D2b6E2b6F2b6G2b6H2
b6I2b6J2b6K2b6L2b6M2b6N2b6O2b6P2b6Q2b6R2b6S2b6T2b6U2b6V2b6W2b6X2b6Y2b6Z2b6a2b6b2b6c2b6d2b6e2b6f2b6
g2b6h2b6i2b6j2b6k2b6l2b6m2b6n2b6o2b6p2b6q2b6r2b6s2b6t2b6u2b6v2b6w2b6x2b6y2b6z2b702b712b722b732b742
b752b762b772b782b792b7A2b7B2b7C2b7D2b7E2b7F2b7G2b7H2b7I2b7J2b7K2b7L2b7M2b7N2b7O2b7P2b7Q2b7R2b7S2b7
T2b7U2b7V2b7W2b7X2b7Y2b7Z2b7a2b7b2b7c2b7d2b7e2b7f2b7g.130000bWxaP3aEd2aEe2aEf2aEg2aEh2afK2aEi2afL2
afM2aEj2aEk2aEl2aEm2aEn2aEo2aEp2aEq2afO2aEr2aEs2aEt2afP2aEu2aEv2aEw2aEx2aEy2aEz2aF02aF12aF22aF32aF
42aF52aF62aF72aF82afS2aF92aFA2aFB2aFC2aFD2aFE2aFF2aFG2afU2aFH2aFI2afW2aFJ2afX2aFK2aFL2aFM2aFN2aFO2
aFP2aFQ2aFR2aFS2aFT2aFU2aFV2aFW2aFX2aFY2aFZ2aFa2aFb2aFc2aFd2aFe2aFf2aFg2aFh2aFi2aFj2aFk2aFl2aIN2aI
O2aIP2aIQ2aIR2av82aIS2aIT2aIU2aIV2b272b282b292b2A2b2B2b2C2b2D2b2E2b2F2b2G2b2H2b2I2b2J2b2K2b2L2b2M2
b2N2b2O2b2P2b2Q2b2R2b2S2b2T2b2U2b2V2b2W2b2X2b2Y2bM02bM12bM22bM32bM42bM52bM62bM72bM82bM92bMA2bMB2bM
C2bMD2bME2bMF2bMG2bMH2bMI2bMJ2bMK2bML2bMM2bMN2bMO2bMP2bMQ2bMR2bMS2bMT2bMU2bMV2bMW2bMX2bMY2bMZ2bMa2
bMb2bMc2bMd2bMe2bMf2bMg2bMh2bMi2bMj2bMk2bMl2bMm2bMn2bMo2bMp2bMq2bMr2bMs2bMt2bMu2bMv2bMw2bMx2bMy2bM
z2bN02bN12bN22bN32bN42bN52bN62bN72bN82bN92bNA2bNB2bNC2bND2bNE2bNF2bNG2bNH2bNI2bNJ2bNK2bNL2bNM2bNN2
bNO2bNP2bNQ2bNR2bNS2bNT2bVy2bVz2bW02bW12bW22bW32bW42bW52bW62bW72bW82bW92bWA2bWB2bWC2bWD2bWE2bWF2bW
G2bWH2bWI2bWJ2bWK2bWL2bWM2bWN2bWO2bWP2bWQ2bWR2bWS2bWT2bWU2bWV2bWW2bWX2bWY2bWZ2bWa2bWb2bWc2bWd2bWe2
bWf2bYk2bYl2bYm2bYn2bYo2bYp2bYq2bYr2bYs2bYt2bYu2bYv2bYw2bYx2bYy2bYz2bZ02bZ12bZ22bZ32bZ42bZ52bZ62bZ
72bZ82bZ92bZA2bZB2bZC2bZD2bZE2bZF2bZG2bZH2bZI2bZJ2bZK2bZL2bZM2bZN2bZO2bZP2bZQ2bZR2bZS2bZT2bZU2bZV2
bZW2bZX2bZY2bZZ2bZa2bZb2bZc2bZd2bZe2bZf2bZg2bZh2bZi2bZj2bZk2bZl2bZm2bcF2bcG2bcH2bcI2bcJ2bcK2bcL2bc
M2bcN2bcO2bcP2bcQ2bcR2bcS2bcT2bcU2bcV2bcW2bcX2bcY2bcZ2bca2bcb2bcc2bcd2bce2bcf2bcg2bch2bci2bcj2bck2
bcl2bcm2bcn2bco2bcp2bcq2bcr2bcs2bct2bcu2bcv2bcw2bcx2bcy2bcz2bd02bd12bd22bd32bd42bd52bd62bd72bd82bd
92bdA2bdB2bdC2bdD2bdE2bdF2bdG2bgl2bgm2bgn2bgo2bgp2bgq2bgr2bgs2bgt2bn52bn62bn72bn82bn92bnA2bnB2bnC2
bnD2bnE2bnF2bnG2bnH2bnI2bnJ2bnK2bnL2bnM2bnN2brH2brI2brJ2brK2brL2brM2brN2brO2bw62bw72bw82bw92bwA2bw
B2bwC2bwD2bwE2bwF2aSD2c0M2c0N2aSE2aSF2c0O2aSG2aSH2aSI2aSJ2aSK2aSL2aSM2c0P2aSN2aSO2c0Q2c0R2c0S2c0T2
c0U2c0V2c0W2c0X2aSP2aSQ2aSR2c0Y2aSS2c0Z2aST2c0a2aSU2aSV2aSW2aSX2aSY2c0b2aSZ2aSa2c0c2aSb2aSc2aSd2aS
e2c0d2aSf2aSg2aSh2c0e2aSi2aSj2c0f2c0g2aSk2aSl2aSm2aSn2aSo2aSp2aSq2c0h2aSr2aSs2aSt2aSu2c912c922c932
c942c952c962c972c982c992c9A2c9B2c9C2c9D2c9E2c9F2c9G2c9H2c9I2c9J2c9K2c9L2c9M2c9N2c9O2c9P2c9Q2c9R2c9
S2c9T2c9U2c9V2c9W2c9X2c9Y2c9Z2c9a2c9b2c9c2c9d2c9e2c9f2c9g2c9h2c9i2c9j2c9k2c9l2c9m2c9n2cE02cE12cE22
cE32cE42cE52cE62cE72cE82cE92cEA2cEB2cEC2cED2cEE2cEF2cEG2cEH2cEI2cEJ2cEK2cEL2cFy2cFz2cG02cG12cG22cG
32cG42cG52cG62cG72cG82cG92cGA2cGB2cGC2cGD2cGE2cGF2cGG2cGH2cGI2cGJ2cGK2cGL2cGM2cGN2cHq2cHr2cHs2cHt2
cHu2cHv2cHw2cHx2cHy2cHz2cI02cI12cI22cI32cI42cI52cI62cI72cI82cI92cIA2cIB2cIC2cID2cIE2cIF2cIG2cIH2cI
I2cIJ2cIK2cIL2cIM2cIN2cIO2cIP2cIQ2cIR2cIS2cIT2cIU2cIV2cIW2cIX2cIY2cIZ2cIa2cIb2cIc2cId2cIe2cIf2cIg2
cIh2cIi2cIj2cIk2cIl2cIm2cIn2cIo2cIp2cIq2cIr2cIs2cIt2cIu2cIv2cIw2cIx2cIy2cIz2cJ02cJ12cJ22cKU2cKV2cK
W2cKX2cKY2cKZ2cKa2cKb2cKc2cKd2cKe2cKf2cKg2cQB2cQC2cQD2cQE2cQF2cQG2cQH2cRa2cRb2cRc2cRd2cRe2cRf2cRg2
cRh2cRi2cRj2cRk2cRl2cRm2cRn2cRo2cRp2cRq2cRr2cRs2cRt2cRu2cRv2cRw2cRx2cRy2cRz2cS02cS12cS22cS32cS42cS
52cS62cS72cW62cW72cW82cW92cWA2cWB2cWC2cWD2cWE2cWF2cWG2cWH2cWI2cWJ2cWK2cWL2cWM2cWN2cWO2cWP2cWQ2cWR2
cWS2cWT2cWU2cWV2cWW2cWX2cWY2cWZ2cWa2cWb2cWc2cWd2cWe2cWf2cWg2cWh2cWi2cWj2cWk2cWl2cWm2cWn2cWo2cWp2cW
q2cWr2cWs2cWt2cWu2cWv2cWw2cWx2cld2cle2clf2clg2clh2cli2clj2clk2cll2clm2cln2clo2clp2clq2clr2cls2clt2
clu2clv2clw2clx2cly2clz2cm02cm12cm22cm32cm42cm52cm62cm72cm82cm92cmA2cmB2cmC2cmD2cmE2cmF2cmG2cmH2cm
I2cmJ2cmK2ct12ct22ct32ct42ct52ct62ct72ct82ct92ctA2ctB2ctC2ctD2ctE2ctF2ctG2ctH2ctI2ctJ2ctK2ctL2ctM2
ctN2ctO2ctP2ctQ2ctR2ctS2ctT2ctU2ctV2ctW2ctX2ctY2ctZ2cta2ctb2ctc2ctd2cte2ctf2ctg2cth2cti2ctj2ctk2ct
l2cv62cv72cv82cv92cvA2cvB2cvC2cvD2cvE2cvF2cvG2cvH2cvI2cvJ2cvK2cvL2cvM2cvN2cvO2cvP2cvQ2cvR2cvS2cvT2
cvU2cvV2cvW2cvX2cvY2cvZ2cva2cvb2cvc2cvd2cve2cvf2cvg2cvh2cvi2cvj2cvk2cvl2cvm2cvn2cvo2cvp2cvq2cvr2cv
s2cvt2cvu2cvv2cvw2cvx2cvy2cvz2cw02cw12cw22cw32cw42cw52cw62cw72cw82cw92cwA2cwB2cwC2cwD2cwE2cwF2cwG2
cwH2cwI2cwJ2cwK2d2z2d302d312d322d332d342d352d362d372d382d392d3A2d3B2d3C2d3D2d3E2d3F2d3G2d3H2d3I2d3
J2d3K2d3L2d3M2d3N2d3O2d3P2d3Q2d3R2d3S2d3T2d3U2d5L2d5M2d5N2d5O2d5P2d5Q2d5R2d5S2d5T2d5U2d5V2d5W2d6K2
d6L2d6M2d6N2d6O2d6P2d6Q2d6R2d6S2d8h2d8i2d8j2d8k2d8l2d8m2d8n2d8o2d8p2d8q2d8r2d8s2d8t2d8u2d8v2d8w2d8
x2d8y2d8z2d902d912d922d932d942d952d962d972d982d992d9A2d9B2d9C2d9D2d9E2d9F2d9G2d9H2d9I2d9J2d9K2d9L2
aow2aox2aoy2aoz2ap02ap12ap22ap32ap42ap52ap62ap72ap82ap92apA2apB2apC2apD2apE2apF2apG2apH2apI2apJ2ap
K2apL2apM2apN2apO2apP2apQ2apR2apS2apT.134302GdTy2HETy2bpILQJUTI4KGTI4JUJs4KGJs2LjGb2SEaBm2JsaBm.14
4000askaP3aEd2aEe2aEf2aEg2aEh2aEi2aEj2aEk2aEl2aEm2afN2aEn2aEo2aEp2aEq2aEr2aEs2aEt2aEu2aEv2aEw2aEx2
aEy2aEz2aF02aF12aF22afQ2aF32aF42aF52aF62aF72aF82aF92aFA2aFB2aFC2aFD2aFE2aFF2afT2aFG2aFH2afV2aFI2aF
J2aFK2aFL2aFM2aFN2afY2afZ2aFO2aFP2aFQ2aFR2aFS2aFT2aFU2aFV2aFW2aFX2aFY2aFZ2aFa2aFb2aFc2aFd2aFe2aFf2
aFg2aFh2afa2afb2afc2aFi2aFj2aFk2aFl2afd2afe2aff2afg2afh2afi2afj2afk2afl2afm2afn2afo2afp2afq2afr2af
s2aft2afu2afv2afw2afx2afy2afz2ag02ag12ag22ag32ag42ag52ag62ag72ag82agA2agB2agC2agD2agE2agF2agG2agH2
agI2agJ2agK2agL2agM2agN2agO2agP2agQ2agR2agS2agT2agU2agV2agW2agX2agY2agZ2aga2agb2agc2agd2age2agf2ag
g2agh2agj2agk2agl2agm2agn2ago2agp2agq2agr2ags2agt2agu2agw2agx2agy2agz2ah02ah12ah22ah32ah42ah52ah62
ah72ah82ah92ahA2ahB2ahC2ahD2ahE2ahF2ahG2ahH2ahI2ahJ2ahK2ahL2ahM2ahN2ahO2ahP2ahQ2ahR2ahS2ahT2ahU2ah
V2ahW2ahX2ahY2ahZ2aha2ahb2ahc2ahd2ahe2ahf2ahg2ahh2ahi2ahj2ahk2ahl2ahm2ahn2aho2ahp2ahq2ahr2ahs2aht2
ahu2ahv2ahw2ahx2ahy2ahz2ai02ai12ai22ai32ai42ai52ai62ai72ai82ai92aiA2aiB2aiC2aiD2aiE2aiF2aiG2aiH2ai
I2aiJ2aiK2aiL2aiM2aiN2aiO2aiP2aiQ2aiR2aiS2aiT2aiU2aiV2aiW2aiX2aiY2aiZ2aia2aib2aic2aid2aie2aif2aig2
aih2aii2aij2aik2ail2aim2ain2aio2aip2aiq2air2ais2ait2aiu2aiv2aiw2aix2aiy2aiz2aj02aj12aj22aj32aj42aj
52aj62aj72aj82aj92ajA2ajB2ajC2ajD2ajE2ajF2ajG2ajH2ajI2ajJ2ajK2ajL2ajM2ajN2ajO2ajP2ajQ2ajR2ajS2ajT2
ajU2ajV2ajW2ajX2ajY2ajZ2aja2ajb2ajc2ajd2aje2ajf2ajg2ajh2aji2ajj2ajk2ajl2ajm2ajn2ajo2ajp2ajr2aFm2aF
n2aFo2aFp2aFq2aFr2aFs2aFt2ajs2aFu2aFv2aFw2aFx2ajv2aFy2aFz2aG02aG12aG22aG32aG42aG52aG62aG72aG82aG92
aGA2aGB2aGC2aGD2ajz2aGE2aGF2ak12ak22ak32aGG2aGH2aGI2aGJ2ak42ak52ak62aGK2aGL2aGM2aGN2aGO2aGP2aGQ2aG
R2aGS2aGT2aGU2aGV2aGW2aGX2aGY2aGZ2aGa2aGb2aGc2aGd2aGe2aGf2aGg2ak72aGh2aGi2aGj2aGk2aGl2ak82aGm2aGn2
aGo2aGp2ak92aGq2aGr2aGs2akA2akB2akC2akD2akE2akF2akG2akH2akI2akJ2akK2akL2akM2akNH2HnNI2akO2akP2akQ2
akR2akS2akT2akU2akV2akW2akX2akY2akZGh2aka2akb2akc2akd2ake2akf2akg2aki2akk2akm2ako2akq2aks2aku2akw2
aky2al0SEYLGL2al2JsYLGL2al32al52al72al92alB2alD2alF2alH2alJ2alK2alL2alM2alN2alO2alP2alQ2alR2alS2al
T2alU2alV2alW2alX2alY2alZ2ala2alb2alc2ald2ale2alf2alg2alh2ali2alj2alk2all2alm2aln2alo2alp2alq2alr2
als2alt2alu2alv2alw2alx2aly2alz2am02am12am22am32am42am52am62am72am82am92amA2amB2amC2amD2amE2amF2am
G2amH2amI2amJ2amK2amL2amM2amN2amO2amP2amQ2amR2amS2amT2amU2amV2amW2amX2amY2amZ2ama2amb2aGt2aGu2aGv2
aGw2aGx2aGy2amc2aGz2aH02aH12aH22aH32aH42amd2aH52aH62ame2amf2amg2aH72aH82amh2aH92aHA2aHB2aHC2aHD2aH
E2aHF2aHG.168000aIZG1cN1aUmU93bdkaNR3aAzU9aWu5aWt3WGU93cfI3ac8U93aALU93cegGyYd3aAzGyYdaWu6aWt3c3S3
LOa9C3cBl3c3V3c413c8r3ccx3cFn3bsr3cDw3a4G3cCR3bxT3a8ua213a2ic5e3c3Q3cLq3ben3cLC3UCaUi3cHRa9R3GBaET
aUE3bem3a2iaVC3cgH3c5q3c5a3c7m3brn3Gya8s3WJa8s3cMl3c3U3cDA3aXT3crr3bzu3chE3cnq3c3X3U13cAu3bvQ3c7l3
cfM3bzS3baq3cUl3buv3chH3YOcNT3cej3a2i3aC2aACaed3aVXc7e3cKj3aV53cuT3a9x3aSx3aUz3aTA3aAJ3abq3aCP3aW1
3aVA3a9B3OV3bs33aAB3TX3LV3a9u3aUI3c4k2cN2cFa3LOc3T3cfp3QDLO3aRwa2j3YRc3R3bte3d7S3c4j3brt3cMO3d6ma8
s3JtaACa2m3cFmcec3a2acDP3bep3aWx3LOaVB3aZMcDR3ceb3U9abr3a9Jc4i3OVa2j3bsu3beo3bsx3bwN3cLn3cxf3cCQaU
53cC0a9M3d573cXG3cmS3c5b3cCA4IJ3c5j3aak3c4n3c7k3cGf3cPk3a9RcBz3baX3c4u3Tn3bsn3H7cDU4cDk3a8u3aUg3cF
V3H73btq3aA12cN3aUma9C3aAL3aed3d3q3a9x3cAy3cCK3bei3c4l3bdg3cGtc77aTT3cFqa9J3aTC3cNt3cBA3WCb2b3bsw3
beh3bsq3Juc8a3cHF3c4s3cFW3a9J3d7R3bus3a1m3aBr3cB33cmU3aV43ac8d8N3cjt3cC4a2m3cxg3cAB3H7bso3aVC3cC93
a8n3c4p3c5r3cFk3cnr3cC73aNe3cAz3cFU3cFX3b1f3cxe3c4m3Lx3aA63Jt3cpI3cFhaA13cDS3U13aA03aSx3c4r3LV3a21
3aUz3aA13d5E3cC63cFe3cFj3a8gaV53cFg3aUO3H7aVB3X03a9p3cfJ3ccv3a9I3a9C3aTA3bsv3c4o3aQX3WCcNQ3aef3aV0
3aTZ3aU03aZP3Y9aRT4baF3cBn3aUI3bz23aWr3WQ3Ug2cN4c4t3adk3Yd3U93cDX3byY3cDV3cFY3cBw3a2m3d563cCT3a3o3
cCJ3bsp3cnp3ceZ3cDQ3aak3U13d6k3bvP3aYv3c5h3cB03c3p3a9R3ccw3Zn3cDT3bssc4q3cCN3LO3aOB3cCV3baW3a9q3c5
z3byF3cBB3c7f3c5v3cPz3c5x3c5k3Rn3cFc3WC3bvg3aAJ3abq3aCP3aef3aQX3cSI3cnQ3cCM3c5f3cFd3bst3aWs3cMr3cH
13a8u3aUg3c5i3cCD3d8S3Nd3aee3aUO3a2j3cjr3aR43cC23cCP3acq3aTT3bvU3cFf3cno3c3W3cBx3byG3cC83aAC3aV43a
OD3MJ3a3SIr3aCv3acF3OV3a3d3aRW3a9O3HB3a4G3Jm3a3r3aZN3a253KK3OX3aAD3Ru3KD3aC23cPo3aU53a2G3a3Sa9b3N5
3aVE3WCGo3cXh3a132cN5a9p3cps3aTC3a8n3cyN3bzb3a2v3aa83cSW3cFb3cBF3aBB3Uc3aUl3buu3ae83UP3aUi3aW13Wp3
a8g3aRw3aVA3aUq3a9B3cCO3cCX3cFZ3cUE3aV03cMM3a3g3cCC3aTU3ber3cCL3aUy3YO3aRx3cBy3cB73cmYa2j3QD3cPg3a
2Ych73cC5a2m3d7a3beq3crq3d7O3N03crx3bsm3cjs3abr3cxd3d4G3a8l3P03cmT3bed3cBs3cea3c5u3a2K3cHB3cDy3bdi
3a4g3bvJ3aeI3OVb5q3aEQ3c5g3cB23cNS3d8O3byE3aNe3bdj3cCU3U13aSw3cCI3bel3JW3cFs3cMq3d7Q3cC13OVN93cHU3
cOZ3aTZ3bbv3aUE3aU03aOD3RZGK3c8s3cPb3cCS3a213cNV3a2i3d7P3cCB3GyaWS3RZa5u3a7K3Yc3GC3acF3GD3GK3bxU3G
ycOH3Ua3cmu3a2YaUAY03aZP3d7T3cCb3d8K3aEScka4a6H3aET3d8Q3aQY3aAn3YcbXo3aXS3aED3Tn3TX3LV3Kh3aBT3WS3c
Cc3I93QF3aC23RZcTE3H83JR3a2G3LJ3Rp3H73aT33cnn3MC3UC3Hs3baB3bev2cN6Gv3GB3MJ3JP3Z23aCv3OV3H63a3d3aYE
3a9O3Ua3a2Y3aA63HB3a4G3a3r3Lm3aBr3a253U13aVF3KK3aV33aES3OX3H93aAB3aAn3aAD3aED3Ru3Lx3KD3aBT3Y93aUn3
Yb3QF3aBB3a7K3IH3Mw3a2G3LJ3aTB3a3S3H73Lu3WC3Ug3YG3aYt3d2i.16A400c8BG1HI2a2c2KL2a2P2He2HM2GC2LL2aQc
2bhZ2bNh2a0T2bsX2aVg2a9B2aA42Gy2J82GD2L32Wb2co42a6x2IH2GH2LJ2aRK2H62bhE2NI2cnV.16A601HKHg2GF2GE2GN
2GT2GX2Gg2Go2Gh2Gt.16A6E1KV1GJKV0cmqG1cKT2cJF2aAR2a2u2aIM2Zs2X92aIJ2d2x2cwe2cyV2d2r2Xh2Xf2bXp2a102
bpq2a7z2a8A2aPv2cv22a4i2cub2cuz2av32av02av22aII2cuB2cu32cu52cuA2GIMc2HradB2J0adC3aII2ctv2adC2ctz2a
dB2cu92cu62cu72cu82c8y2aTD2c862c8u2Gv2IP2HU2I92HH2H92IH2Gy2IN2In2He2H72H82Gs2H62aPO2HI2HM2H22WL2IA
2II2Kc2J52blo2Ia2OD2JW2J62IM2J9.16AC01HKHg2GF2GE2GN2GT2GX2Gg2Go2Gh2Gt.16AD00XDadSG1bXV3Gv3Ly3JW3a2
J3aeT3aNn3bPY3buq3Q53bmA3IH3Pt3a7X3MI3RI3cuy3GO3He3Uq3d7C3Gy3d3g3GC3GD3J83GB3JP3GH3GK.16AF02JiI2Hx
3HXHx3UAHx3bznHx3bj1Hx2IzIC.16B000cKvaPDHGbsZ3bsc3btb3bty3bsF3bsI3bvI3bvc3bsY3bsy3bro3brr3bud3bug3
bsK3bsM3bvG3bvH3buV3bun3btZ3bta3aQH3bsJ3bvi3bvl3brc3brj2Lfcwb3cFp3bxa3aOo3cEM3cSc3cDv3cQX3d733bjC3
c4Z3b4J3cAs3bkB3cO93cFl3cAG3I73d5Z3b3H2GLXNcrs4LM4bsl4bt74cju4bki4cn22G5ZecoN4crLb3l3XNb4N3ZecoC4b
aM3d69cFu4L24cq44ba03ZecYT3aTIcjq3ZecFH3a7yaeG3d5a3XNcrRaBb.16B502HKHg3GF3GE3GN3GT3GX3Gg3Go3Gh3Gt.
16B5B2ITaCz3a7w3HsTR3UB3GrUB3Hsb0L3cqZ.16B632G5Zebzv3d6C3a7r3coHa7r3af1cnz3bkR3cF43d5g3cFr3Uz3csUb
3m3aTIcrJ3N43bzg3c8k3XNbhGc07aVDaVD4bLYcrN4csV5b5J4cPcbNz4cFAcpz.16B7D2aKOG5crM4d7B4bz34bxc4d6D4YF
4bhm4c8J4coM4crI4cMw4bt04bhN4cwN4ba44aEH4crU4bvj4d2q.16E400aTGG4G1HB3Ge3HT3Hy3aIE3Hl3aQw3Ho3HS3HO3
IK3GK3HR3GC3I63GH3Hu3Hj3GB3Ju3Gj3Ie3a1Y3aVR3Ht3Hb3Jf3H13Gc3GD3Hz3Hd1G2G1HB3Ge3HT3Hy3aIE3Hl3aQw3Ho3
HS3HO3IK3GK3HR3GC3I63GH3Hu3Hj3GB3Ju3Gj3Ie3a1Y3aVR3Ht3Hb3Jf3H13Gc3GD3Hz3Hd1HKHg2GF2GE2GN2GT2GX2Gg2G
o2Gh2Gt1ITHs2PP2Od2TP2SY2Q22Qy2TD2RR2Su1HKGFLeG32GELeG32GNLeG31IZ1IzIC1GWarz1L7Yi.16F000c6SG1Gy2He
2KlGy2a362H72aTV2MQH72JW2Is2cxj2HI2HM2KlJ23HI2J22J32H82WL2KlJI2MQH82JI2cEY2H62c0B2Sk2byT2aDM2bQU2c
pR2bQV2Gv2HU2KlGv2MN2cQU2I92aUk2MQI92Gs2OD2J52a7Z2crS2bVq2IN2aVV2OB2Xd2KlOB3Xd2aBROB2IA2JZ2M82dAc2
Kc2Ok2KlKc2HH2J92dAb2a542dBB2MQa542dBI2dBC2IH2PC2Re2b1G2cki2bVp2Jx2Oc2cVJ.16F4F1G5LfKYGl1G1a9n1G5a
I92aBRadf3aI91HGG5GC3Hh3arp3KA3PD3GD3J83Ld3Hy3GH3J43PQ3cJP3GK3a1b3aPY3bnO3a893ND3I03Y33a853GB3Wq3c
tm3ctn3IE3ctx3cuO3Hd3Kl3KF3aHR3a0x3Qua0x3Nx3QuNx3Hz3RQ3I73Sz3H13Mc3cuV3d8P3cJS3cJO3d2o3aPi3a6x3bpW
3a4k.16F8F1HxG82JUG82G92GG1G1R32S42Uk2R42a4V2aDS2a4W2aBRZR3R33Uk3R43a4V3a4W.16FE00abWQmGL0cGbQmGL0
IraKFGUGL2QmGL0btBG2LXRX.16FF00cxrLecSnGLII4cCm.188000abWb861b871b881b891b8A1b8B1b8C1b8D1b8E1b8F1b
8G1b8H1b8I1b8J1b8K1b8L1b8M1b8N1b8O1b8P1b8Q1b8R1b8S1b8T1b8U1b8V1b8W1b8X1b8Y1b8Z1b8a1b8b1b8c1b8d1b8e
1b8f1b8g1b8h1b8i1b8j1b8k1b8l1b8m1b8n1b8o1b8p1b8q1b8r1b8s1b8t1b8u1b8v1b8w1b8x1b8y1b8z1b901b911b921b
931b941b951b961b971b981b991b9A1b9B1b9C1b9D1b9E1b9F1b9G1b9H1b9I1b9J1b9K1b9L1b9M1b9N1b9O1b9P1b9Q1b9R
1b9S1b9T1b9U1b9V1b9W1b9X1b9Y1b9Z1b9a1b9b1b9c1b9d1b9e1b9f1b9g1b9h1b9i1b9j1b9k1b9l1b9m1b9n1b9o1b9p1b
9q1b9r1b9s1b9t1b9u1b9v1b9w1b9x1b9y1b9z1bA01bA11bA21bA31bA41bA51bA61bA71bA81bA91bAA1bAB1bAC1bAD1bAE
1bAF1bAG1bAH1bAI1bAJ1bAK1bAL1bAM1bAN1bAO1bAP1bAQ1bAR1bAS1bAT1bAU1bAV1bAW1bAX1bAY1bAZ1bAa1bAb1bAc1b
Ad1bAe1bAf1bAg1bAh1bAi1bAj1bAk1bAl1bAm1bAn1bAo1bAp1bAq1bAr1bAs1bAt1bAu1bAv1bAw1bAx1bAy1bAz1bB01bB1
1bB21bB31bB41bB51bB61bB71bB81bB91bBA1bBB1bBC1bBD1bBE1bBF1bBG1bBH1bBI1bBJ1bBK1bBL1bBM1bBN1bBO1bBP1b
BQ1bBR1bBS1bBT1bBU1bBV1bBW1bBX1bBY1bBZ1bBa1bBb1bBc1bBd1bBe1bBf1bBg1bBh1bBi1bBj1bBk1bBl1bBm1bBn1bBo
1bBp1bBq1bBr1bBs1bBt1bBu1bBv1bBw1bBx1bBy1bBz1bC01bC11bC21bC31bC41bC51bC61bC71bC81bC91bCA1bCB1bCC1b
CD1bCE1bCF1bCG1bCH1bCI1bCJ1bCK1bCL1bCM1bCN1bCO1bCP1bCQ1bCR1bCS1bCT1bCU1bCV1bCW1bCX1bCY1bCZ1bCa1bCb
1bCc1bCd1bCe1bCf1bCg1bCh1bCi1bCj1bCk1bCl1bCm1bCn1bCo1bCp1bCq1bCr1bCs1bCt1bCu1bCv1bCw1bCx1bCy1bCz1b
D01bD11bD21bD31bD41bD51bD61bD71bD81bD91bDA1bDB1bDC1bDD1bDE1bDF1bDG1bDH1bDI1bDJ1bDK1bDL1bDM1bDN1bDO
1bDP1bDQ1bDR1bDS1bDT1bDU1bDV1bDW1bDX1bDY1bDZ1bDa1bDb1bDc1bDd1bDe1bDf1bDg1bDh1bDi1bDj1bDk1bDl1bDm1b
Dn1bDo1bDp1bDq1bDr1bDs1bDt1bDu1bDv1bDw1bDx1bDy1bDz1bE01bE11bE21bE31bE41bE51bE61bE71bE81bE91bEA1bEB
1bEC1bED1bEE1bEF1bEG1bEH1bEI1bEJ1bEK1bEL1bEM1bEN1bEO1bEP1bEQ1bER1bES1bET1bEU1bEV1bEW1bEX1bEY1bEZ1b
Ea1bEb1bEc1bEd1bEe1bEf1bEg1bEh1bEi1bEj1bEk1bEl1bEm1bEn1bEo1bEp1bEq1bEr1bEs1bEt1bEu1bEv1bEw1bEx1bEy
1bEz1bF01bF11bF21bF31bF41bF51bF61bF71bF81bF91bFA1bFB1bFC1bFD1bFE1bFF1bFG1bFH1bFI1bFJ1bFK1bFL1bFM1b
FN1bFO1bFP1bFQ1bFR1bFS1bFT1bFU1bFV1bFW1bFX1bFY1bFZ1bFa1bFb1bFc1bFd1bFe1bFf1bFg1bFh1bFi1bFj1bFk1bFl
1bFm1bFn1bFo1bFp1bFq1bFr1bFs1bFt1bFu1bFv1bFw1bFx1bFy1bFz1bG01bG11bG21bG31bG41bG51bG61bG71bG81bG91b
GA1bGB1bGC1bGD1bGE1bGF1bGG1bGH1bGI1bGJ1bGK1bGL1bGM1bGN1bGO1bGP1bGQ1bGR1bGS1bGT1bGU1bGV1bGW1bGX1bGY
1bGZ1bGa1bGb1bGc1bGd1bGe1bGf1bGg1bGh1bGi1bGj1bGk1bGl1bGm1bGn1bGo1bGp1bGq1bGr1bGs1bGt1bGu1bGv1bGw1b
Gx1bGy1bGz1bH01bH11bH21bH31bH41bH51bH61bH71bH81bH91bHA1bHB1bHC1bHD1bHE1bHF1bHG1bHH1bHI1bHJ1bHK1bHL
1bHM1bHN1bHO1bHP1bHQ1bHR1bHS1bHT1bHU1bHV1bHW1bHX1bHY1bHZ1bHa1bHb1bHc1bHd1bHe1bHf1bHg1bHh1bHi1bHj1b
Hk1bHl1bHm1bHn1bHo1bHp1bHq1bHr1bHs1bHt1bHu1bHv1bHw1bHx1bHy1bHz1bI01bI11bI21bI31bI41bI51bI61bI71bI8
1bI91bIA1bIB1bIC1bID1bIE1bIF1bIG1bIH1bII1bIJ1bIK1bIL1bIM1bIN1bIO1bIP1bIQ1bIR1bIS1bIT1bIU1bIV1bIW1b
IX1bIY1bIZ1bIa1bIb1bIc1bId1bIe1bIf1bIg1bIh1bIi1bIj1bIk1bIl1bIm1bIn1bIo1bIp1bIq1bIr1bIs1bIt1bIu1bIv
1bIw1bIx1bIy1bIz1bJ01bJ11bJ21bJ31bJ41bJ51bJ61bJ71bJ81bJ91bJA1bJB1bJC1bJD1bJE1bJF1bJG1bJH1bJI1bJJ1b
JK1bJL1bJM1bJN1bJO1bJP1bJQ1bJR1bJS1bJT1bJU1bJV1bJW1bJX1bJY1bJZ1bJa1bJb1bJc1bJd1bJe1bJf1bJg1bJh1bJi
1bJj1bJk1bJl1bJm1bJn1bJo1bJp1bJq1bJr1bJs1bJt1bJu1bJv1bJw1bJx1bJy1bJz1bK01bK11bK21bK31bK41bK51bK61b
K71bK81bK91bKA1bKB1bKC1bKD1bKE1bKF1bKG1bKH1bKI1bKJ1bKK1bKL1bKM1bKN1bKO1bKP1bKQ1bKR1bKS1bKT.1AFF00Q
6G1c6yR33S43Uk3R4.1AFF53aDS3a4W3cAEZR4R34S44Uk4R4.1AFFD4aDS4a4W.1B0002MQGH0VnG1MQNn0aOwG1afD2afE2a
fF2afJ2bmm2bmn2bmo2bmp2csp2csq2csr2css2cst2bVs2bVt2bVu2bVv2bVw2cHe2cHf2cHg2brQ2brT2brU2brV2brW2brX
2brY2brZ2bra2brR2brS2brb2btR2btS2btT2btU2btV2btW2btX2btY2bv62bv72bv82bv92bvA2bvB2bvC2bsR2bsS2bsT2b
sU2bsV2bsW2buP2buQ2buR2buS2cWy2aYl2cWz2cX02cX12cX22cX32cX42cfe2cff2cfg2cfh2cfi2cfj2cji2cjj2cjk2cjl
2cjm2cjn2cjo2cjp2cYG2cYH2cYI2cYJ2cYK2cgw2cgx2cgy2cgz2ch02ch12ch22cmL2abO2cmM2cmN2col2com2con2coo2c
op2coq2cor2crl2crm2crn2cro2crp2cn92abf2cnA2cnB2cnC2cnD2cnE2cnF2cnG2cpT2cpU2cpV2cpW2cpX2cpY2cpZ2c9o
2aUB2c9p2c9q2c9r2c9s2c9t2c9u2c9v2cCp2cCq2cCr2cCs2cCt2cCu2cCv2cCw2cFv2cFw2cFx2cBL2aUR2cBM2cBN2cBO2c
BP2cBQ2cEb2cEc2cEd2cEe2cEf2bgu2bgx2bgy2bgz2bh02bh12bh22bh32bh42bgv2bgw2bih2bii2bij2bik2bil2bim2bin
2blp2blq2blr2bhu2bhv2bhw2bhx2bhy2bhz2bi02bkV2bkW2bkX2bkY2bkZ2bka2bkb2bkc2c3B2c3C2c3D2c3E2c3F2c3G2c
3H2c6L2c6M2c6N2c6O2c6P2c6Q2c6R2c8E2c8F2c8G2c8H2c4x2c4y2c4z2c7B2c7C2c7D2c7E2c7F2c7G2d6T2d6U2d6V2d6W
2d6X2aeE2d8A2d8B2d8C2d8D2d7k2d7l2d7m2d7n2d7o2d7p2cS82aXo2cS92cSA2cTh2cTi2cTj2cTk2cTl2cTm2cTn2cVL2c
VM2cVN2cVO2cVP2cVQ2cSj2cSk2cSl2cSm2cUV2cUW2cUX2cUY2cUZ2cUa2d3V2d3W2d3X2d3Y2d3Z2d4M2d4N2d4O2d4P2d4Q
2d422d432d442d452d4e2d4f2d4g2d4h2d4i2d4j2d4k2c8z2c900VnG1MQQM0Q6G1MQKl3Nn3QM.1B1500VnG1G2M63LG3Ld.
1B1640Q6G1G2M63LG3Ld3H1.1BC000bVPG1HV2Ht2Ho2HS2IK2HR2Gj2Hu2Hb2HT2HO2Gc2HoH12HbGe2IKH12HRHB2GcGe2TN
2UWaLa2aLa2a1u2UWI62bj92a8x2cTe2HB2H12I62Ge2HBH12H1HB2I6HB2GeI62HBG0GM2H1G0GM2I6G0GM4H0MZG6G92GeG0
GM5GG2HBGe2H1Ge2I6Ge2GeGe2HBH1Ge2H1HBGe2I6HBGe2GeI6Ge2I6GeG0GM3H14Ge2GeHS4Gc3Ho4Gc2HSGe3GcGe2Hy2d4
J2HyGc2GeH13HB2HRGcGe2HOGcGe2GeHR4Gc2GC2UWYo2Yh2GD2atH2GK2GH2ND2J0GK2a4k2JP2UWQd2aYXGK2UWJP2HrGK2N
n2GB2RU2aEF2GBH12HrGB2aYXGB2aDn2UWGB2cJk2Yo2Sz2IH2Ld2M62adu2d4y2aUJGB3GD3GK3GC2cMfKA3QQ2UWJ43KA3IU
2IhHB.1BC701arZGAHETC2UAHETC2G8HETC2HXGdTC2UAGdTC2I2GdTC2UyTC3YKTC3abV3Io3GHGU3GKGU3abVGU.1BC802I2
HY3aDFHY3IL3HrIL3GM3Gz3I83M53Gd.1BC902HXHY3aDFHY3IL3HrIL3GM3Gz3I83M53Gd3G7.1BC9C1G5GDG0JD1coDG1aBo
1GJGL1JMb4oIzIC0cf3bbWG1aAW2bKkaAW2GpaCZ2GfaCZ.1CF000dAUJiGLXrSvGePZIUGA3SvGePZIUGA3aDcIUGA3XrSvIU
GA3SvIUGA3aaRIUGA3U7PgIUGA3PgIUGA3WxIUGA3U7PgGeW6IUGA3PgGeW6IUGA3WxGeW6IUGA3XrSvGePZIUG83SvGePZIUG
83aDcIUG83XrSvIUG83SvIUG83aaRIUG83U7PgIUG83PgIUG83WxIUG83U7PgGeW6IUG83PgGeW6IUG83WxGeW6IUG83aDcGeP
Z3U7PgGePZ3aCdU7Pg3PgGePZ4aCd3WxGePZ3U7PgaCd3XrWx3d9f3IU3cSd3a4R3b0s3cts3cON3bzR3bvT3brk3d9i3cgV3c
Sh3a1zIUGA.1CF302aDRaBMGLc885ckV5cqO2GLaeo3aLTaeo3cKG3aX74G0GdGV3aK74cOU3cJ93aa9aV93cpc3bVe2aueGda
Vk2GLPyaVk3a1z2HPaDRaBMSe1cPCKYbyH3byI3aLjaNN3a1z3aBb.1CF501cBcbv33ac52cLg2bVaHTb4T2aQm2d9T2aac3Ge
cJH2cMa3Ya2aacG0aa9aV92aKB2cL22TZ2bfab0t3ac53c8A3ckW3cqP2cyWa3E3a9a3TM3a4a3U3a3E4a9a4TM4a4a2GJTZ2I
4aKB2bP32bt22aK72aX72aZua9a3TM3a4a3a4R2aLTaQm2aZuU3TM3aQn3U3a4R3a6va3E4TM4Ya4U32cgo3GeX33d9Q3GePZ2
a1z2aBb2Tp2buW2dAT2aaY3GeX34PZ4X3GKPZ4PZGKX33d9P4GeX33GecUi4bVfd9V4X3GKcOM2cOT2aaYYa2aCea3E3c893bv
43cOW3a3C3Ya3buJ3aQn3a4RcPx3a6v3bVd3aMC3a6vU33aMCU33a1MG0IBTZ3a1NG0IBTZ3a1M3a1N4G0GJTZ3aOQ4a3C2c51
3cOo3buL3buK3buI2aCecrC3crD3crE2cKB3TM3a4a3aR2TM3U3TM4Ya2aCeaR24a3C4a1MG0IBTZ4a1NG0IBTZ4a1M4a1N5G0
GJTZ4aOQ5a3C4crB2bvK2cJA2bVG2cBV2cM5.1D0000aJkOuGWI33bNw3JL3aVya0r4Ti3adTa0r4Ti3bsE3clL3aAf3d864Ti
3bv13aHra0r3a77a0r3abh3YA3aHw4Ti3clF3coJ3aViMR3a7eMR3cPW3b4B3cwa3a8DMR3a1qMR3YAMR3cXu3cLi3aaZatM3c
KQMR3cwVMR3aHuMR3atO3a1v3cTb3aWhMR3cp83asm3aZ43abMMR4c5Scix3aVzMR3abs3bxz3a0m3cqR3aD33buy3aHra77L1
3VeMR3bok3a4cMR3bsCa4c3aWP3aXQ3aQt3aKGMR3cSV3aAeMR3aAfMR3bnR3aUH3cMm3aQta5C3a4ca5C3cjA3bg43a8DL13a
ViL13aVyL13cMn3bum3cMo3buz3aWPL13YAL1SC3a1qL1SC3d883aHwL13aHvclEL13d873bv03bX73b4A3c6ma8D3adTL13aW
hL13aXQL13cJY3atD3c0E3aAfL13aAeL13aMyaAe3bw13atC3a4cL13bX63abML13clK3aKGL13bXn3aZ4L13d5na1v3cqk3cP
T3cqi3cqj3cPU3cql3cPV3bfg3aI43aMyaI43aVzL13co5bY54a773absaHt3co9W0atP3bsD3bXT3d7XU04SC3aaZ3a1vSC3T
iMR3buxMR4a5C4L13aHuL13a013Ti3cqb3cnm3a8f3aRYbXWaKI4a0ma624cqaa624cnia624bonaKI3a7eL1SC4aWEaI55aLY
3bPr4aWEaI5U06SC5aLY3cqV3atl3boi3bPf3arkaX8aI34atm4aI34c5X4c5Q4aOK4bfh4aX8aOK3aT6aXPOo4aHeaXPOo4aL
ZOo4aHeaLZOo4cqdOo4cqU4abnOo5aRXOo4aRXOo4aWzOo3bpeabjaPa3aHvabjaPa3ba8cnk4aTp4aLe3aT6cwXOo4cPPOo4a
WzabnOo3bfkH1aHt5bQ33bXOW0Veadh3boj3bol3VeMRbPGbnS4a6gGy5aUH4cACOo4a6gMW4a40bPhMW4a6gMB5Pt5KDU06SC
4c3oa0SaLe6aTp3baaa40a0SadU3Vea40a0SclC4cBW3b57dAq4buH4chV3VeGKa4wabm4bXNatB3a4wacX3aLdacX4abm4a01
a0mSP4aTqaD3SP4aLga10SP4acUaVfSP3a4wa01a0mSP4aTqaD3SP4aLga10SP4acUaVfSP3be0aLd4a4w3bPga01c6l5c574T
i4abu3cfxabu5aLn5acW5abp4au45aLn5acW5abp3bPsbe93bPpSz3aCa3atqGy4adh4HU4MW4MB4Pt4KD3YAL1aTQ3a1qL1aT
Q3YAL1U03a1qL1U03a1vU03a7eL1U0.1D1000OuGWIBV12GJV12GIV12LwGIV12OjV12J0V12GAZ3G52G8Z3G52Z3H02OMaZ22
HMb2z2aZ22b7m2cTJbac3bad3bae2aND3GG2aJbGL2b2g2b152Gu2cJbTH2csRTH2coUTH2bbdTH2bawTH2cgKTH2cgMaNc2bb
faNc2HOVA4aASZz5XD2HjVA2IKVA4aASZz5XD2Xbb5r3b5s.1D1292OtWDN22GJWa3Vd2VdGf3Gp2aULGf3Gp2WaGf3Gp2KEHx
Wa4Vd2b7zaDI2a6PaDI2aASZz3XD2cR7Zz3XD2c8SN22aE8N22GqN22KEN22KzN22WeN22aD6N22aCFN22GFGracvN22HtPd2G
mPd2GzHtPd2GxPdGS4GP2HQPdGfGS5GP4GAGS5GP4G8GS5GP4GpGS5GP4GfG8GS6GP2LAPdGS4GP2cqSPdGpGS5GP2JQPd2cyH
Pd2PdGP2aAEPd2b64PdGS4GP2Ij2aE8MM2GqMM2KEMM2KzMM2WeMM2aD6MM2aCFMM2GFGracvMM2JiRz3chqRz3acP3acQ3acR
2bajacP3acQ3acR2JiaukGM3bb13bb23bb33bb43bb52SEaIk2JsaIk2SEWo2JsWo2SEaZz2JsaZz2SEaWf2JsaWf2JiJh3cih
3cnf3cig3c493c4A3ar43bzm2atyGf3Gp2JibQg3cUJ3aNN3cgp3a0E3GJUl3JEUl2cUG2cjx2Hl2cNN2c5d2bba2bLK2bOi2a
OMMMNi4JYNi2cq72aDh2IOaDh2aDhNi3Gf2IycjQ3cjT3cjU3cjV3cjW3cjX3cjY3cjZ3cja3cjR3cjS2bhl2cBR2JsGRcj42a
0dNi2JiGpV63GfV63bhf3cgtcNy2aWLGL3GfGL2GqaWLGL2bfNGf3Gp2G0bak2bNo3X62c4b2a932aJc2aZ7GS3GP2aTf3GP2a
Z8GS3GP2bc1GS3GP2a93a32N23a83N22aJcN22aZ7N22aTfN22aZ8N22cnccMbaKjaXKa326a836a32aLh3boqaKjaXKa326a8
37aLh7bPy7bPz2bLN2bg2HjVA3IKVA2GxHu2cy22cOL2b5x2aYz2b5t2acG2cOd3aNL2aYzaNL2acGcTV2cMjck22btgHjVA3J
sGRT63GIMM3cStGL3aE8MM3GqMM3KEMMRzGp6Gf3KzMMRzGp6Gf3VdG52chJ2buj.1D2000LIcyDSxab13ab93cku3abC3abD3
cl83abJ3abK3cl93ckk3ab23ab33ab43ab53ckl3ckm3ab63ab73ab83ckn3cko3ckp3abA3abB3abE3abF3abG3abH3abI1bp
JSxab13ab93abC3abD3abJ3abK3ab23ab33ab43ab53ab63ab73ab83abA3abB3ckq3ckr3cks3ckt3ckv3ckw3ckx3cky3ckz
3cl03cl13cl23cl33cl43cl53cl63cl73abE3abF3abG3abH3abI0JiLIOuacV3abo3aWR0LIOuaRY.1D2E00c4dQtHg2GF2GE
2GN2GT2GX2Gg2Go2Gh2Gt2Hs2PP2Od2TP2SY2Q22Qy2TD2RR2Su.1D3000WEJjOQ0aLfJjbi7OQ2a7vOQ2bWka1T3a7v2OQ0cn
lJjIi2IzGz2c722ayy2aQTG22bKo2auE2aAQ2b1CNc2bOlHnbQG2bQJ2d822a842cMR2aY02VC2VoPG2aE12aNQ2arN2cTC2cT
R2bWl2a8J2bKi2bXQ2bVY2b4F2bOg2KdcTS2cKo2bxv2b5y2btp2a7T2cjJ2cPr2bbx2cTQ2aRTHnc7J2aYA2bfXGOaTJ2bXP2
cj92bg12bXU2aWG2cUN2bbC2cwYHnd3x2bKg2WD2a742cuS2bPx2JzME2bgB2a7TIl2c4S2ar82bXJ2bV12adm2cg42aPo2aLW
2aL82bQ02bYV2cd02cj62bhd2a6A2b602ba22arj2b842IUJpcwl2bPn2bwS2bbc.1D3600bLBcUhZaHKGF4GE4GN4GT4GX4Gg
4Go4Gh4Gt2aCzHKGF4GE4GN4GT4GX4Gg4Go4Gh4Gt0NzabTGLGF3GE3GN3GT3GX0abTGLGF2GX.1D4000WBKdG4GC3Hu3Hj3Hb
3GH3IK3HO3HV3GK3I63HR3Gj3HB3H13GD3Ho3Ie3Gc3Ge3HS3GB3HT3Hy3Ht3Hd3Hl2G2GC3Hu3Hj3Hb3GH3IK3HO3HV3GK3I6
3HR3Gj3HB3H13GD3Ho3Ie3Gc3Ge3HS3GB3HT3Hy3Ht3Hd3Hl1Q4G4GC3Hu3Hj3Hb3GH3IK3HO3HV3GK3I63HR3Gj3HB3H13GD3
Ho3Ie3Gc3Ge3HS3GB3HT3Hy3Ht3Hd3Hl2G2GC3Hu3Hj3Hb3GH3IK3HO.1D4563GK3I63HR3Gj3HB3H13GD3Ho3Ie3Gc3Ge3HS3
GB3HT3Hy3Ht3Hd3Hl1KdQ4G4GC4Hu4Hj4Hb4GH4IK4HO4HV4GK4I64HR4Gj4HB4H14GD4Ho4Ie4Gc4Ge4HS4GB4HT4Hy4Ht4Hd
4Hl3G2GC4Hu4Hj4Hb4GH4IK4HO4HV4GK4I64HR4Gj4HB4H14GD4Ho4Ie4Gc4Ge4HS4GB4HT4Hy4Ht4Hd4Hl1LXG4GC.1D49E3H
j3Hb.1D4A23HO.1D4A53I63HR.1D4A93H13GD3Ho3Ie.1D4AE3Ge3HS3GB3HT3Hy3Ht3Hd3Hl2G2GC3Hu3Hj3Hb.1D4BB3IK.1
D4BD3HV3GK3I63HR3Gj3HB3H1.1D4C53Ho3Ie3Gc3Ge3HS3GB3HT3Hy3Ht3Hd3Hl1KdLXG4GC4Hu4Hj4Hb4GH4IK4HO4HV4GK4
I64HR4Gj4HB4H14GD4Ho4Ie4Gc4Ge4HS4GB4HT4Hy4Ht4Hd4Hl3G2GC4Hu4Hj4Hb4GH4IK4HO4HV4GK4I64HR4Gj4HB4H14GD4
Ho4Ie4Gc4Ge4HS4GB4HT4Hy4Ht4Hd4Hl1aNZG4GC3Hu.1D5073Hb3GH3IK3HO.1D50D3I63HR3Gj3HB3H13GD3Ho3Ie.1D5163
Ge3HS3GB3HT3Hy3Ht3Hd.1D51E2G2GC3Hu3Hj3Hb3GH3IK3HO3HV3GK3I63HR3Gj3HB3H13GD3Ho3Ie3Gc3Ge3HS3GB3HT3Hy3
Ht3Hd3Hl1PzG4GC3Hu.1D53B3Hb3GH3IK3HO.1D5403GK3I63HR3Gj3HB.1D5463GD.1D54A3Ge3HS3GB3HT3Hy3Ht3Hd.1D55
22G2GC3Hu3Hj3Hb3GH3IK3HO3HV3GK3I63HR3Gj3HB3H13GD3Ho3Ie3Gc3Ge3HS3GB3HT3Hy3Ht3Hd3Hl1KdaNZG4GC4Hu4Hj4
Hb4GH4IK4HO4HV4GK4I64HR4Gj4HB4H14GD4Ho4Ie4Gc4Ge4HS4GB4HT4Hy4Ht4Hd4Hl3G2GC4Hu4Hj4Hb4GH4IK4HO4HV4GK4
I64HR4Gj4HB4H14GD4Ho4Ie4Gc4Ge4HS4GB4HT4Hy4Ht4Hd4Hl1LlG4GC3Hu3Hj3Hb3GH3IK3HO3HV3GK3I63HR3Gj3HB3H13G
D3Ho3Ie3Gc3Ge3HS3GB3HT3Hy3Ht3Hd3Hl2G2GC3Hu3Hj3Hb3GH3IK3HO3HV3GK3I63HR3Gj3HB3H13GD3Ho3Ie3Gc3Ge3HS3G
B3HT3Hy3Ht3Hd3Hl2KdG4GC4Hu4Hj4Hb4GH4IK4HO4HV4GK4I64HR4Gj4HB4H14GD4Ho4Ie4Gc4Ge4HS4GB4HT4Hy4Ht4Hd4Hl
3G2GC4Hu4Hj4Hb4GH4IK4HO4HV4GK4I64HR4Gj4HB4H14GD4Ho4Ie4Gc4Ge4HS4GB4HT4Hy4Ht4Hd4Hl2Q4G4GC4Hu4Hj4Hb4G
H4IK4HO4HV4GK4I64HR4Gj4HB4H14GD4Ho4Ie4Gc4Ge4HS4GB4HT4Hy4Ht4Hd4Hl3G2GC4Hu4Hj4Hb4GH4IK4HO4HV4GK4I64H
R4Gj4HB4H14GD4Ho4Ie4Gc4Ge4HS4GB4HT4Hy4Ht4Hd4Hl2KdQ4G4GC5Hu5Hj5Hb5GH5IK5HO5HV5GK5I65HR5Gj5HB5H15GD5
Ho5Ie5Gc5Ge5HS5GB5HT5Hy5Ht5Hd5Hl4G2GC5Hu5Hj5Hb5GH5IK5HO5HV5GK5I65HR5Gj5HB5H15GD5Ho5Ie5Gc5Ge5HS5GB5
HT5Hy5Ht5Hd5Hl1aTrG4GC3Hu3Hj3Hb3GH3IK3HO3HV3GK3I63HR3Gj3HB3H13GD3Ho3Ie3Gc3Ge3HS3GB3HT3Hy3Ht3Hd3Hl2
G2GC3Hu3Hj3Hb3GH3IK3HO3HV3GK3I63HR3Gj3HB3H13GD3Ho3Ie3Gc3Ge3HS3GB3HT3Hy3Ht3Hd3Hl1Q4G2OPGK4I6.1D6A81
KdG4K93MT3Lr3MH3L63PB3M93LN3KR3Mu3OT3Jm3KK3OE3Mz3JR3L23LNGW3LE3N43Kv3LL3LS3NH3Jo2WH2G2K93MT3Lr3MH3
L63PB3M93LN3KR3Mu3OT3Jm3KK3OE3Mz3JR3L23GILE3LE3N43Kv3LL3LS3NH3Jo2T4VK2L6GW2LNGW2MuGW2LLGW2L2GW2JRG
W1Q4G4K93MT3Lr3MH3L63PB3M93LN3KR3Mu3OT3Jm3KK3OE3Mz3JR3L23LNGW3LE3N43Kv3LL3LS3NH3Jo2WH2G2K93MT3Lr3M
H3L63PB3M93LN3KR3Mu3OT3Jm3KK3OE3Mz3JR3L23GILE3LE3N43Kv3LL3LS3NH3Jo2T4VK2L6GW2LNGW2MuGW2LLGW2L2GW2J
RGW1KdQ4G4K94MT4Lr4MH4L64PB4M94LN4KR4Mu4OT4Jm4KK4OE4Mz4JR4L24LNGW4LE4N44Kv4LL4LS4NH4Jo3WH3G2K94MT4
Lr4MH4L64PB4M94LN4KR4Mu4OT4Jm4KK4OE4Mz4JR4L24GILE4LE4N44Kv4LL4LS4NH4Jo3T4VK3L6GW3LNGW3MuGW3LLGW3L2
GW3JRGW1LlKdG4K94MT4Lr4MH4L64PB4M94LN4KR4Mu4OT4Jm4KK4OE4Mz4JR4L24LNGW4LE4N44Kv4LL4LS4NH4Jo3WH3G2K9
4MT4Lr4MH4L64PB4M94LN4KR4Mu4OT4Jm4KK4OE4Mz4JR4L24GILE4LE4N44Kv4LL4LS4NH4Jo3T4VK3L6GW3LNGW3MuGW3LLG
W3L2GW3JRGW3Q4G4K95MT5Lr5MH5L65PB5M95LN5KR5Mu5OT5Jm5KK5OE5Mz5JR5L25LNGW5LE5N45Kv5LL5LS5NH5Jo4WH4G2
K95MT5Lr5MH5L65PB5M95LN5KR5Mu5OT5Jm5KK5OE5Mz5JR5L25GILE5LE5N45Kv5LL5LS5NH5Jo4T4VK4L6GW4LNGW4MuGW4L
LGW4L2GW4JRGW1KdG4VM2G2VM.1D7CE2HKHg3GF3GE3GN3GT3GX3Gg3Go3Gh3Gt1PzHKHg3GF3GE3GN3GT3GX3Gg3Go3Gh3Gt1
LlHKHg3GF3GE3GN3GT3GX3Gg3Go3Gh3Gt2KdHKHg4GF4GE4GN4GT4GX4Gg4Go4Gh4Gt1aTrHKHg3GF3GE3GN3GT3GX3Gg3Go3G
h3Gt0cftKpHA1NBHA1VlHA1XuHA1MsHA1PVHA1KpHAKU1NBHAKU1KpHwS5HAKU2HALCa1x3VG3NX4HX1NBHAaP71KpHAGb1NBH
AGb1KpHAGbKU4LCa8b4NX3GfGbNX3NXGbGf3GbMk5HAKU5GbKU5VG5NX4Oi1NBHAGbOi1KpGbKUH4HA2HAKUH4Gb3GbHw1NBHA
GbHw1KpHAGbLbHwKU4KUHwLb4HwKU4NXP5HwLD3GfGbNXHwLD7Mk3NXGbGfHwLD3GbGfP5HwMp4HwVG5Ip5Vp5NX2HwN9HAGbL
b2HAGbMkHwLD7Mk7KU2GbHwVpHAGf2HAHwVpGbGf3GbMkNXHwLD4OiHwLD4MkHwMp5VGHwMp2GbHwVGHAGf2HAHwVGGbGf2GbH
wIpHAGf6NX2HAHwa5GNcGbGf5IlGbGf4IpGbGf3GbHwMkNX5a5GNc62GbHwa5GNcHAGf7Oi5HAGf2HAHwVpGbNX1a7mGTLU4KU
4NX4Mk5aaN1a1RGTLUMk1KpGTLUMkKU1MsGTLUMk1a7mGXLUP52TwGXLUP52GXLUP5GTKU2TwGXLUP5GTKU2GXLUP5KU2TwGXL
UP5KU2GXLUP5HwMp1VlGXLUP55Hm1MsGXLUP5Hm1XuGXLUP51a7mGXLUP5NX6HwLD6JYHw22N9YpbZw2Tw2HwLD2TwHwLD2HwK
U3Mp2aaNHAHwLD3Ii4HwLD6KU3Im1a1R2HwLD2JYHw2HwMp1XtaKm21VlHm22HmHwLD2HwLD2HmJYHw2JYHw2HmHwMp2HwMp1a
7lHm21NB1Xu2HwLD2JYHw2HwMp1MsHm3HwMp22G22HmHwLD2HwLD2HmJYHw2JYHw2HwLDacJHA3N9GbHL1PV1KpHAGbHL1NBHA
GbHL1MsHAGbHL1PVHAGbHL1MsIm1KpHAGbHLKU5Mk1MsHAGbHLMk1KpImGp4cUKLb5Py4cKFIp3Gf2HwS5ImGf1NBImGf1XuIm
Gf1PVImGf1KpImLCa1x3KU3cq2Hw3Hw1MsImHw1KpImHAHw1MsImHAHw1PVImHAHwHAHwNc71KpImHA1NBImHA1MsImHA1PVIm
HA1KpHAGbIm1NBHAGbIm1MsHAGbIm2HL1PVHAGbIm1KpHAGbJDIm1NBHAGbJDIm1KpHLGp1MsHLGpHAHwGUGb1PVHLGpGbHwHA
JD1KpHLGf3LCa1x3Im1NBHLIm1XuHLIm1PVHLIm1KpHLGb4Mk4LCa8b3HA3Hw1XtHLHw1KpHAHLIm1NBHAHLIm1a7lHAHLImIU
1XtHAHLImNc5Il5S51VlHAHLIm1MsHAHLIm1PVHAHLImNc51KpGbGp1MsGb1KpGbGf1NBGbGf1KpGbLCa1x3GfHwLD1XtGbHw1
KpGbHwIm3Im3HLIm1NBGbHLIm1a7lGbHLImIU1VlGbHLIm1MsGbHLIm1PVGbHLImNc5Il51NBGbHLImKU1a1RGbHLImMk6LD1X
tGbHLImMkNc6Il61MsHANX1KpHAHwLD1MsHAHwLD1KpHAHwLDHwJH6Mk6KU5HAKU5aJUKU5HAaP74MpHALb6KU4GU4aKm4MlHw
MZ1a1RHAHwMlHwMZ1KpHAHwMlHwS54Gz1VlHAHw4Hm1MsHAHwHm4IJ44G21PVHAHwNc4Il41KpHw3Tw3LDJH4Mk4KU3Mp3N9HA
Gb4GbHL4HLIm3S5GELU3H4GELU3S5GNLU4GTLU3H4GTLCa8b22Tw1cq1IB2Ot2N91bfwIB2Ot2N91cjNIB2Ot2N91a5kIB2Ot2
N91aYeIB2Ot2N91aaraCt2N91aaPIJIB2G2IB2IJOt2G2Ot2a3k1aNMIJIB2G2IB2IJOt2G2Ot2a3k1aaPaNMMi1c81GfGpIJ4
G23a3k2Gpa3k2GfGpMiIJ5G22LDGOLDWY1PcSXVC1PbSXVC1PcIBLbG24HZ4IJ4Rl3PqQg2GJLb3PqQg3Mi4PqQg2JD2JELbSr
3PqQg3Mi4PqQg2a0EG23HZ3IJ2KJG23HZ3IJ3aYZ2PMG23HZ3IJ2KyG23HZ3IJ2TaG23HZ3IJ2aWKG23HZ3IJ1cqLZAIB3GJ3M
i2Z9IB3GJ3Mi2a3n2XAa42IB4GJ4JE1c80aIHG23HZ3IJ3Rl2acLG23HZ3IJ3Rl2N9aIHG24HZ4IJ4Rl3acLG24HZ4IJ4Rl1Pb
IBLbG24HZ4IJ4Rl3PqQg2GJLb3PqQg3Mi4PqQg2JD2JELbSr3PqQg3MiSr4PqQg2a0E2KJG23HZ3IJ2PM2KyG23HZ3IJ2TaG23
HZ3IJ2aWKG23HZ3IJ1cqKZ9IB3GJ3Mi2ZAIB3GJ3Mi2a3n1PcMlKEG24HZ4IJ4Rl3aOhG24HZ4IJ4Rl3coWGzG25HZ2VrG23HZ
3IJ2MxG23HZ3IJ3G2GJ2M5MlGJG25HZ5IJ4JEG25HZ5IJ2MlUiLb2PyJDG24HZ1ZAIB2GJ2Le1Pca3n2MlKQSZQK2VrKQSZQK2
MxKQSZQK2M5KQSZQK1ZAIBKQSZQK2GJKQSZQK2MiKQSZQK1PcMlKQTg2VrKQTg2MxKQTg2M5KQTg1ZAIBKQTg2GJKQTg2MiKQT
g1PcM5JHaAjG25HZ5IJ1PbMlKQRJG25IJ2VrKQRJG2GJ5IJGJ5G2JE5IJJE2MxKQRJG2IB5IJIB5G2GJ5IJGJ2M5KQRJG25IJ1
Z9IBKQRJ2GJKQRJ2MiKQRJ1PbMlKQQhG25IJ2VrKQQhG2GJ5IJGJ5JEG2JE6IJJE2MxKQQhG2IB5IJIB5G2GJ5IJGJ2M5KQQhG
25IJ1Z9IBKQQh2GJKQQh2MiKQQh1PbMlG23HZ3IJ3Rl3b7w2VrG22MxG22M5a413G23IJ1Z9IB2GJ2Mi1Pba3nT31PcXAGzG2I
B4HZIB4G2GJ4HZGJ1PbXAGzKQQKG2IB6HZIB6IJIB6G2GJ6HZGJ6IJGJ1PcPqGzSZIB5GJ1PbPqGzKQQKIB6GJ1PcSXOgIB4GJ
1PbSXOgKQQKIB6GJ1bVjIFG23IJ2baD2aZy2aD02aY52cfy3Mi2bYPcKEaDI2bfo1MY2cUD2PcLb3cp52PbLb2PcMl2PbMl2Sr
Gz1GwaLja38WMMpa4S5GfHnGp8a4S1aN3LbGf3Lv3Gp1bV7aN3LvGp3GpLv3GfLv3LvGf1bbULv2VC2Us1MAHm2chx2Jz1RVb0
cIB3Ot1MAGqHm2ZhHm2GqJz2d4TSr1RVd4a1bYiGf2Gp2aNP1a78Lb3GJ3Mi1aN4Lb3GJ3Mi1a78Py1aN4Py1a78aKL1aK9cPf
2Lv2aaj1aD0aK9I23Gb3HX1aMO1WMLv2VC2ae62d4U1a59aJKNc2ck4Il2b0fG2aYa2ck3G2aYa1aJbbp82bYU1MEJzLv3Mp3V
C2aCK3Us3Hm2aNd3Us3Hm2HmGz3Mp3Us3aAU4Us4aeL3UM4Us4aeL2a1t3Mp3Us2aD03Mp3aaj1U5cP5a4U1a8zHPH4Hk2HkH4
HP1MEVE2ae6IB3GJ1UlaabNcbaC2byXU52ObN9U53acJMZME2MZMEaY52c82argb4M2IiaabNc3MZME1cnS2Sr2IUUl4Sr3U54
Sr2b0XU51PcaQ01PbaQ01aUS1Tu1bYT1a3uXxchf3cOg1d3la3uXxaTy1bbDa3uXxaTy1a3ua4SKOd3k1cpyLbcjK2Pya0E1cp
xcsP1HkaJNa4SKOXxbqk1bykb7v2by12by22by32by42by52by62by71SX1bzJM11bzIM11a92biA2Zi2bP22MYaUS2cpw2byl
bPq1IZ1IzIC1Pl1KI1JQ.1DA9B1ORaTi2aTj2aTk2aTl2aTm.1DAA11aYZaTi2aTj2aTk2aTl2aTm2c7W2c7X2c7Y2c7P2c7Q2
c7R2c7S2c7T2c7U2c7V.1DF000IxG2G1a7CKnG0cqY3I4LXHO1G1G2G4HqHO1G2G1I4HR1G1G2G4GjG0Pv1G2G1a8wG0JSGU3H
qHdG0Pv3I4PQ3HqGcG0HrNGG6JSGU3HSG0GUG6JSGU1G1JSPxG0JSGU1G2G1MnG0GJGl7G6Lo3HqHSG0Lo1G1IOKoICG0Lo2aC
gHjG0Lo2G2G4HqHR1G2G1GjG0To3a0fKnG0KjGU3GjG0PvG6KjGU3PQG0KjGU3HqGcG0KjGU3GcG0ToG6KjGU3a4NKnG0KjGU3
RWG0KjGU3a0fKnG0JSGU3GKG0GVG6JSGU3GDG0JSGU3a4NKnG0JSGU3HjG0JSGU3GeG0Lo.1E0000JiaOGG1a5P3a5m3aDv3a7
d3a6q3aEP3aEZ.1E0083aEX3Vw3GYVw3GK3a6o3a8K3a913YW3a9o3aAN3aAx3aBa3aCJ3aDi3aDp3a7O3a7p.1E01B3aC43Um
3XM3IA3QN3a4v3aEK.1E0233Ju3G2Km.1E0263KL3VuG2Km3OIKm3VuOIKm3Tp.1E1000cGmcPaaPDG1H74Kc4cFi4HI4Gs4H8
4OD4cDu4II4H64HH4J94cAr4cFo4Gv4HM4IN4aAA4Is4cFt4csT4JW4H24MN4H94cF34Gy4aeC4cF14a0i4cF24Hc4aTh4a364
HU4MO4GC4Hh4GK4GB4GD4J84GH4JP4Hy.1E1303cpj3cpn3cpm3cpp3cpo3cpl3cpk3G5JjNe5coF5a925at25bpR4aEFaEF3N
Ma2C.1E1403HKHg4GF4GE4GN4GT4GX4Gg4Go4Gh4Gt.1E14E3YLcGh3IpII.1E2900cq0G1Gy2He2HI2HM2Gv2HU2H72H82I92
HH2IM2H92IH2IG2Gs2H22H62GK2XHGK2Y32XHY32GB2GH2XHGH2Xg2XHXg2GD2KF2XHKF2GC1G5P3Hx.1E2C00d3nG1Hh2GC2H
e2II2HM2HU2H92In2H62H82Gy2HI2Ia2JW2HH2IA2IG2J92IH2Is2Gv2GD2I72H22H72IP2Gs2GH2GK2I92GB2bzC2Kc2aDU2a
Vn2apY2PD2a852IU2J42aHI2IN2cty2d7e1Hxacr2cs42a8c2buZ1HKHg2GF2GE2GN2GT2GX2Gg2Go2Gh2Gt.1E2FF1cCfG5.1
E7E00a0zNMbia2big2bie2bib2bid2bic2bif.1E7E82aOZaP22biZ2biY2biX.1E7ED2aOZa2V3aU6.1E7F03aXm3aXl3aXk3
aJi3aJh3a243aR63a233aOe3aOd3aOc3aNl3aNk3a3F3aXU.1E8000c5GbtlNMaSDMC3aSEGv3aSFMJ3c12a8S3c1WMB3c1DYF
3c0lLJ3c2sbvF3aSGM63aSHIH3aSIQM3c21a4o3c1tLG3c1pZk3c0iLd3c37d583c2Iadu3c0yd5H3c0md5F3c2Ed5G3aSJa2Q
3aSKMD3aSLc8W3c0wRp3c1VUC3c2TaU13c32c8L3aSMNq3aSNHe3aSOMU3c2PV23c1YNp3c1eaJP3c2DPJ3aSPGK3aSQGC3aSR
GB3c2cJP3c1bGH3c2eJ83c2MGD3c2CRQ3c26Il3c2AIl3c38KA3c2rJ43aSVLm3aSWHH3aSXMF3c2bUP3c1rLy3c2BZJ3c1GLM
3c39cfk3aSbMw3aScH63aSdLV3c1La2A3c1AO23c0rW93c2SML3c1lHrO23aSSMW3aSTHM3aSUNT3c1QVI3c2taLw3c2uMI3aS
YN53aSZHI3aSaLO3c1SWl3c0sJx3c1fWp3c16GO3aSeSf3aSfIG3aSgTz3c2WVy3c1oPX3c2ZaQB3c10Q53c2oHrQ53aShKl3a
SiH93aSjJu3c1kX13c1HNn3c2Ga4x3c1wKL3aSkQ13aSlJW3aSmRZ3c1FTn3c1CPS3c28a7L3c1PPU3c3Abbt3c1caN93aSnaA
43aSocA63aSpJA3c1sa9u3c2icEk3c2pKq3aSrGs3c2zOS3aSqa1U3c1XJX3aSsXy3c2FL83c1Kbi93c23bko3c0qaP63c25aO
j3c1OaPQ3c0paOv3c36a7t3c0jbls3c1RaUj3aStYb3c1JaA03c1qaUh3c2La9w3c2Va9z3c1va9y3c2YcBv3c22cC33c1NHra
9w3c1hHra9z3c2wHra9y3c2ULs3c1mHU3c2hNW3c33Xn3c2fbgD3c2gbg93c2xaUf3c0uaUp3c2qcCd3c15JR3c1aGy3c0nP03
c1IRu3c0oJB3c1dYw3c13N03c2Ka9I3c0zYR3c1xa9M3c0ka2K3c31a2K3c19a2J3c2la9L3c2na9K3c30c4v3c2aHra2J3c1g
Hra9L3c2HHra9K3c27aQz3c1TYG3c1BaR13aSuaQy3c1jaQx3c1naR03c2Xa1y3c1zaNu3c0ta7W3c2Na7X3c1UaNt3c1ia1G3
c18aNw3c17aNv3c2kH23c1ya9r3c24WJ3c20a2a3c34a9q3c1ua2Z3c14aUQ3c11a9s3c2RaUx3c35aA73c2OYc3c29aV23c2v
S63c2yIs3c2QUq3c2mTX3c1MNm3c2Jadg3c1ER73c2dcGr3c0vcGi3c2jcH23c1ZcGl3c0xcGx.1E8C72HKGF3GE3GN3GT3GX3
Gg3Go3Gh3Gt2JiITcnR4aCz4a7w4TR4HsTR4GrTR4UB.1E9000arJG4G1a5B3aKw3a8l3aTd3He3aZj3JB3a0F3H23GH3JW3GK
3GD3J63aeR3Jq3JA3KW3H93GB3aQ33LS3Gs3aBI3HU3IN3LO3WL3Is3IP3a1G3a503a1y3IA1G2G1a5B3aKw3a8l3aTd3He3aZ
j3JB3a0F3H23GH3JW3GK3GD3J63aeR3Jq3JA3KW3H93GB3aQ33LS3Gs3aBI3HU3IN3LO3WL3Is3IP3a1G3a503a1y3IA1a5Ba2
C1HGa2C1XoGL1Jv1LfKY1bdvLfKY1LK1a9nGL.1E9501HKHg2GF2GE2GN2GT2GX2Gg2Go2Gh2Gt.1E95E1GYL7GL2KkGL.1EC7
10aPmaZrITGF3GE3GN3GT3GX3Gg3Go3Gh3Gt3Hs3Ja3M23Mo3KB3NJ3K53Nv3Jn3GFGr3GEGr3GNGr3GTGr3GXGr3GgGr3GoGr
3GhGr3GtGr3GFH53GEH53GNH53GTH53GXH53GgH53GoH53GhH53GtH53HsH53JaH53M2H53MoH53KBH53NJH53K5H53NvH53Jn
H53a8m3bxL2a8mGL2ITbs73bs83aXFGF4GE4GN4GT4GX4Gg4Go4Gh4Gt2aAw2MXGFKE4Gq3GNO72UNGL2ITLeGF4GE4HsH52Le
a8mGL.1ED010cKJaZrITGF3GE3GN3GT3GX3Gg3Go3Gh3Gt3Hs3Ja3M23Mo3KB3NJ3K53Nv3Jn3GFGr3GEGr3GNGr3GTGr3GXGr
3GgGr3GoGr3GhGr3GtGr3GFH53GEH53GNH53GTH53GXH53GgH53GoH53GhH53GtH53HsH53JaH53M2H53MoH53KBH53NJH53K5
H53NvH53JnH52c4G2LeITGE4GN4GT4GX4Gg4Go4Gh4Gt4Hs4GTGr4GgGr4GEH54HsH52MXGFGq4aCE.1EE000MPWBHC2MG2Hp2
OM.1EE052Jq2OG2Hc2Ku2H32KW2Jt2Gk2Jk2L42K82Li2Lk2LB2KS2Md2Me2Pp2Iq2Uh2MV2QO2NA2OPMG3Jk3Li3LB.1EE212
GYMG3Hp.1EE243Kg.1EE273Hc.1EE293H33KW3Jt3Gk3Jk3L43K83Li3Lk3LB.1EE343Md3Me3Pp3Iq.1EE393MV.1EE3B3NA.
1EE422abRHp.1EE473Hc.1EE493H3.1EE4B3Jt.1EE4D3Jk3L43K8.1EE513Lk3LB.1EE543Md.1EE573Iq.1EE593MV.1EE5B
3NA.1EE5D3OPJk.1EE5F4LB.1EE612aCgMG3Hp.1EE643Kg.1EE673Hc3Ku3H33KW.1EE6C3Gk3Jk3L43K83Li3Lk3LB.1EE74
3Md3Me3Pp3Iq.1EE793MV3QO3NA3OPMG.1EE7E4Li.1EE802bzcHC3MG3Hp3OM3Kg3Jq3OG3Hc3Ku3H3.1EE8B3Jt3Gk3Jk3L4
3K83Li3Lk3LB3KS3Md3Me3Pp3Iq3Uh3MV3QO3NA.1EEA12PzMG3Hp3OM.1EEA53Jq3OG3Hc3Ku3H3.1EEAB3Jt3Gk3Jk3L43K8
3Li3Lk3LB3KS3Md3Me3Pp3Iq3Uh3MV3QO3NA.1EEF02JKGkG0HcG0a4K3HcG0OM.1F0000c3eaDHIVQL2JNQL2ItQL2J7QL2P1
SQ2SaSQ2GSSQ2GFGRRK2GEGRRK2GNGRRK2GTGRRK2GXGRRK2GgGRRK2GoGRRK2GhGRRK2GtGRRK2GFGRRG2GEGRRG2GNGRRG2G
TGRRG2GXGRRG2GgGRRG2GoGRRG2GhGRRG2GtGRRG2GFGROg2GEGROg2GNGROg2GTGROg2GXGROg2GgGROg2GoGROg2GhGROg2G
tGROg2cOE2cJz2a5V2b582chr2ck92auu2d4b2a1l2PG.1F0300bQlaDHHEPG2bkq2bkr2bks2bkt2bku2bkv2bkw2bkx2bky2
bkz2bl02bl12bl22bl32bl42bl52bl62bl72bl82bl92blA2blB2blC2blD2blE2blF2blG2blH2blI2blJ2blK2blL2blM2bl
N2blO2blP2blQ2blR2blS2blT2blU2blV2blW2blX2blY2blZ2bla2blb2blc2GdPG2cwn2cwo2cwp2cwq2cwr2cws2cwt2cwu
2cwv2cww2cwx2cwy2cwz2cx02cx12cx22cx32cx42cx52cx62cx72cx82cx92cxA2cxB2cxC2cxD2cxE2cxF2cxG2cxH2cxI2c
xJ2cxK2cxL2cxM2cxN2cxO2cxP2cxQ2cxR2cxS2cxT2cxU2cxV2cxW2cxX2cxY2cxZ.1F0A00aX1XKPG2ZtGROZ2GEGROZ2GNG
ROZ2GTGROZ2GXGROZ2GgGROZ2GoGROZ2GhGROZ2GtGROZ2HsGROZ2a1iGROZ2KrGROZ2NfGROZ2MvGROZ.1F0B12ZtGRNC2GEG
RNC2GNGRNC2GTGRNC2GXGRNC2GgGRNC2GoGRNC2GhGRNC2GtGRNC2HsGRNC2a1iGRNC2KrGRNC2NfGRNC2MvGRNC2P1a1l.1F0
C12ZtGROO2GEGROO2GNGROO2GTGROO2GXGROO2GgGROO2GoGROO2GhGROO2GtGROO2HsGROO2a1iGROO2KrGROO2NfGROO2MvG
ROO2GPa1l.1F0D12ZtGROK2GEGROK2GNGROK2GTGROK2GXGROK2GgGROK2GoGROK2GhGROK2GtGROK2HsGROK2a1iGROK2KrGR
OK2NfGROK2MvGROK2GSa1l2bbO2cqn2cqy2cr12cr22cr32cr42cr52cr62cr72cqo2cqp2cqq2cqr2cqs2cqt2cqu2cqv2cqw
2cqx2cqz2cr0.1F1000HKHgIzIC2IZ1GFIZ1GEIZ1GNIZ1GTIZ1GXIZ1GgIZ1GoIZ1GhIZ1GtIZ0aLiIpLlHKHg1NbIpLlHKHg
0IpHgG0Ni1MjG71TjG5G0aAVTd0a2yIxG4G1GC4Hu4Hj4Hb4GH4IK4HO4HV4GK4I64HR4Gj4HB4H14GD4Ho4Ie4Gc4Ge4HS4GB
4HT4Hy4Ht4Hd4Hl0N6LZaJXIxG4G1Ge0IpQ4IxG4G1Hj5Gc1aJy1d5I0bKxGW0K3IxG4G1GC4Hu4Hj4Hb4GH4IK4HO4HV4GK4I
64HR4Gj4HB4H14GD4Ho4Ie4Gc4Ge4HS4GB4HT4Hy4Ht4Hd4Hl1a1Z1YV1cYE1a451cOv1adr0NbIpIxG4G1GC5Hu5Hj5Hb5GH5
IK5HO5HV5GK5I65HR5Gj5HB5H15GD5Ho5Ie5Gc5Ge5HS5GB5HT5Hy5Ht5Hd5Hl0LCaTDG51c4wG51c87G50IpaJx1HjG0aAVTd
1a7va150NbK3IxG4G1GC5Hu5Hj5Hb5GH5IK5HO5HV5GK5I65HR5Gj5HB5H15GD5Ho5Ie5Gc5Ge5HS5GB5HT5Hy5Ht5Hd5Hl0Oi
NbK3IxG4G1Ho0NbK3a7z2Gy2HH2RD2adr0GxbQR0K3b5i1bKt1a7N1bnT1WK1Mc1a2r1aaA1GfG0L7GL1cyX1GNHb1UOZD1GEH
R1GTHR1GhHR1GXOxGF1GoOxGF1aDlOxGE1NJHo1GFGrJaHo1IxG2G1Hb1bhs1bht1bio1bzh1cfV1cu21cyF0a9GaECGW.1F1E
60cT1SeGWG1GC4Hu4Hj4Hb4GH4IK4HO4HV4GK4I64HR4Gj4HB4H14GD4Ho4Ie4Gc4Ge4HS4GB4HT4Hy4Ht4Hd4Hl0GxVnbkg0K
3Q6bub2HH.1F2101XPaDqbno3bnk3bnc1Q6Lp1XPaDqaPd3bni3bo93bnj3bnW3bnv3bo23bnt3bnZ3bnn3bnX3bnu3bnY3bo8
3bo33boA3bnh3bnf3bo03bnp3bnr3bnU3aPc3boC3bnm3bnV3bnd3bnq3boB3aPe3bo63bo73bne3bnz3bnx3bnw3bo43bna3b
ng3boD.1F2400N6LZaJXXPaDqbny5aPc5aPd5bnl5bo15aPe5bo55bnb5bns.1F2500Ipa1darO2ar5.1F2600QuGWJjRZ3LV3
cf53OE3cfG3b2i.1F3000bLr0bbJ0JzZZ0a2fG0cir0ckBH4c7y10aKNLQbVW0ckCH4aJf0cSR0V7LQa2f0PAM50cyJ0c6qZg0
OQaOHbYM2asd2auI0aOHG0c5M0WKLAGW0adqVFLAGW0RYKELAGW0adqaOFLAGW0IzLAGW0adjaOFLAGW0a8oKELAGW0adjVFLA
GW0VFLA0WKLAG0Gw0RYKELAG0Gw0a8oKELAG0Gw0IzLAG0Gw0QHG0Gw0bfQIg0cerIg0abt0GPaM80GSQH2G0G2VB2aItVB4G0
UL0VBG0UL2aCL2a2D2cpv0bbI0QLaJKGw0XzVO0cmX0b1n0b4a0cYR0bYOR50bOfR50YpR50b2e0XzaWU0crw0b4YaJJ0cUq0b
ip0ckA0aJJ0VRGRc3m2Z50biK0GTLtb610c46Lt0ba6Lt0LtaNPIlQL0c8l0cpg0auj0bft0aTL0d3z0cmp0by00ayl0cNp0P1
aHx0SaaHx0cMI0cMF0b4X0cjH0bhO0aZxGRcNx0a2MIUa0H0cOmNG0Z5bLH1PH0bKrZ50bLhG6Z50ciya5f0chR0aJZ0aNbbbp
0cUeaawaXC0bNr0cJN0ckR0bboaZU0Qfa5sG0aCrbPB0OYScaKb0ceLSc0ScaKb0bV20aKY0b4yGl0b2s0bzQ0bLk0bkja3A0c
f10aztKy0a3AGRa1A0bKs0a1CG6YE0cnJZjaOk0cXFa0IG6XU0a4rVj0b7kVj0acZaM50aIqa9c0aKPaIqc8M0V0a0I0a1CG6Y
EG0cO40a0IG0cOcbKz0cOa0a3U0d51cP30b0Pa5s0bps0a61R50aNAa610bap0baochS0a5T0aAicOb0bKYPH0cmnR50Oibb60
cNoaLQ0TxaLu0b39cjI0QLb4m0LAcxub400aBkcXj0bfpa0L0KfG0ObIUJpGA0aJVGRbbE0a9UYT0cTFa3U0OuYBG0bpt0cjda
TW0aRecgg0RNbuN0aIlaI7OuYg1a6eOuYg0aNGbbj0arLcov0b38Rf0baSa4q0aYVb7i0basYvG6Qf0aTW0c83a5v0b5Z0bi30
au8cL10JUTv0b5caD10cou0b5lXG0cMcaI60adaaNo0a6kaP90cgla9A0b0K0aNoa6h0b0z0XkaX1b340OuMM0OtOuYg0cXv0b
gG0OuYB0cr80cy00OucY60aBdcekG0cXi0abkaXrG6PH0aZwG6aZwaJS0az2G6bkm0b4WPT0cgv0cVd0ckO0chnYT0cqm0RfaX
q0ascaNT0cVUaNT0ckZ0advbyd0bfZ0aXqc7u1SH0aKca5XG6PH0cyK0aNFaPEa4CG6PH0ScaPEa4CG6cPe0aCuabkcKqG6PH0
aCLb30Sq0b2p0azaG0ZZ0XIa6D0Y0aJf0aKN0bP4Y0XI0b5nXI0bP91bpi0aUKcLj0cij0Y0XI1G0bdW0aAMXI0TxaB1aAM0aN
1aB1aAM0ble0a5W0autcnYa9A0aPM0a94aPM0bKpaad0aBk0bP1aad0bZy0bprbxS0Txa5x0aN1a5x0GSaWQ0GPaWQ0adnGSPT
1GPPT0aBc0GPaBc0bwQ0ayVaXrG6cfT0V6G6G70asf0aMhKYbavcsc3ad43ad53ad63ad70a3O0UD0a2u0PAb1V0XS0a4Q0by9
0aXp0PL0SQ0bLL0adw0cgs0a410Rf0a3N0bfU0aBv0YU0cUo0b4f0VO0a350aJL0a6z0cJM0a42LZ0b1W0at90bkk0bwXaIr0Q
f0acZQf0b0g0ZV0bhia5z0V0a5z0bbqV0a5z0a0G0cMT0buU0cOY0bV9aJo0ayTaJo0bQj0UDGw0XSGw0a4QGw0aXpGw0PLGw0
SQGw0chpadw0RfGw0YUGw0VOGw0a35Gw0a7PGw0bhQGw0d4nGw0aImGw0cLHGw0a35WM0aWHcPA0b4p0MA0RV0VR0WM0ME0Ul0
GSGfISSDHA1GpISSDHA1GAISSDHA1G8ISSDHA0batKPG50adnKPG50a2rKPG50abyGfG51GpG50b5mRdG50HmRdG50aKh0aE9T
v0bYh0cBS0clc0bq40aM40btn0b0I0aE9a660cPt0bhS0cOl0c40US0auXUS0bj0US0aE9aYu1b0m0bbP0b1rIla3v0b1sIla3
v0b110bfE0MD0TY0aN80MDG6TYVoRd0GERpVoRd1d4oVoRd0a37cJR0TYG0b1gaMO0b1HG0cwh0NeG0b0eTu0MDG0bg8JRc452
acs0aVhMD1TY0V00a6Dd4t0cP90TxcJU1bfV0a7a0V0asp0bYdaHc0aHcc7j0bop0aCG0VtbPCNe0bgC0bNp0bz10cA2aAy0Gw
c4R0bhF0ayuYv0clJ0cNj0a1tGL0a94G10HL0bduaCc0a1t0aJV0bLCG0Kf0d480azfKf0V8Kf0GENC0chUKf0bg5Kf0KfG0G7
0SFKf0SaKf0ZmKf0aBCKf0KfG0a3U0aYBNC0KfaLQ0JeceHG0GCGMMZ0a0sHFb1Z0a5FGW0b0k0aCHGW0b7rGW0chia4IGW0aM
80JOGW0cNiGRYw0bbBb0A0aLpGW0UXa5T0aD8a5T0GSXk0GrcORGW0aTna070XVbYS0GaTjG50a6JXK0ayqG0ZnG52TjG52aN0
G52a3BG50aTnG0d4Y0a0OG0HaaDWG6ZnG50cYM0aWYa6C0b1I0c6v0a18Xa0aVqa0g0bVb0VcTq0HmVcTq0RtG0Lo1aN7Gf0a5
t0cnMa5t0XKHA0a0OG0HaaDW2HNaDW0Gla0O0b5w0aBD0PjaBD0cLb0LbaYf0M3aYf0aJQcmW0bxp0cEu1G0bOha6H0JzV50Hm
V50SaV50SFV50WNV50b0l0YXayU0cYB0c5F0Poa3Q0cKs0a7Ba9A0aYxaHn0cPdarFbzl0b4Oc580cKLacO0bouacO0cKn0bVx
GW0boxRS0RSG0HNG7G90JzaT0G0aS0PT3LCPT0HmaT0G0LCPT3aS0PT0cOh0a39K40aUb0a2SaAp2G0GZG7LQGA0cxlc7I0a2S
aApcJQ0JYa2ScNI0aHnG0a0C0a5v1G0bb80adaa5v0cnX0aXu0cxm0aNGcPK0cOecj10cOxazb0csOGZNQ0OhGZG6GnHmGzNQ7
G0IpGFLj1HNG6HaHmGzNQ0MjHNG6HaHmGzNQ0HXaJdGW0I2aJdGW0aaHG0a0KGV11G0GFNLM52GNNLaE40aIe0a0scOC0MKaSy
Vj0LWaSyVj0a2FG0bpBWQ0Jza2FG0Rk0Rk0a2F0Hma2F0V31G0a0KGV0aJQ0a8yGW0aXuV90PGG0GnG7G90JsG0GnG7G90IUG0
L7GLG0GAG8G7G90chFG0GZG7G90JUG0HaG7G90JYGFS5RRGW0aQZHs0bpFGWJjIxG4a8v4G2a8v3cGR3aCt3Ixa8v0Q30a0scp
u0ae50a1Q0aVKG6a5e0bke0cNv0c6W0cnW0bLWPH0GgK2IgG0GbGM0TxGWJjazl0a4bbXK0GPGxV90GSGxV90IJP1Gz1SFGz1W
NJe1SFJe0G2WNJe1SFJe0OeP1HQ0POP1HQ0OeG2P1HQ0POG2P1HQ0HPG8P4GSGz0HkG8P4GSGz0IpJDaXA0JDaXAG0aOhGG20R
qGAZEG0GNH01G8ZEG0GNH00GWJjc4Fb4H0GSIxJD0GaIxJD0b3qJD0OvGW0aLzGRaAk0brd0c7r0clD0c5JG0Gtb1B0a5fGRbm
b0a0WGwGFPe2GEPe2GNPe2GTPe2GXPe2GgPe2GoPe2GhPe2GtPe2HsPe2PPPe2OdPe2cJd2csS2coX2bbg2bax2cgN2ccy2bWz
2cDF2cnd2bXD2csJ0G8aaH2G0GFNLM53GNNLaE40b1b1G0NLaE40cUIV30V50b2r0c43a0W0GPaCGG6aKf0JYcNs0aPG0MDIlb
1pS0byJ0cgeHnchw0aL7aao0che1d470bqr0MDbNq0GAKPPoa3Q0Poa3QG0Rt0G8KPPoa3Q0GSacKPo0GPacKPo0PoIUJUGRc7
L0b5ka2SaAp0PGGRRS0aaWRS0RSG0a2D0a7JRS0WQH4aaWRS0byycLc0GPaBD0HPGAa302aykWQ2aNXWQ2cKw2bLI0GAae7KP0
Hqa2rKPG50LCKPG0LUaaM0I4LCKPG0LUaaM1abyGfG52GpG51adYKP1KPG0GbSXSV0LCKPG0aAhN9GbG6HLLU0GSGpISGAKPHA
0RyGSGAISHA2G8ISHA1GPGAISHA2G8ISHA0GPGAISSDHA1G8ISSDHA0RyGSGfISHA2GpISHA1GPGfISHA2GpISHA0GPGfISSDH
A1GpISSDHA1Kf0aLXa6C0YBG6UD0GNcBbbKV0aXJ0cOKb2l0GPQkLZa18Xa0GSQkLZa18Xa0OYLZa18Xa0abYb3C0d4cYB0GFV
9UD0GEV9UD0GNV9UD0cq80IraWYa6C0QkXa0ZD0aXJa800a7Ba800aVqa0ga800a6rG0R13G6aAq2aAq0aNaG0aAq2cp42KAHt
0GPTq0Tq0HmTq0XKHAbQL1VcKy0Vcb2c0TkMM2Rt2WO0MM1Rt1WO0Tka6r1Rt1aW20a6r0Rt0aW20d3w0a42MMWO1a5tWO0aLX
adz0c6w0c4c0aAW0OhG8G6GAZENQ0a0KHt0a84aNSaZsGW0aLRaNSaZsGW0bKU0IrRk0cUkaUb0RtG0IpR10aCba0O0VHYE0U5
0chYMYIla3v0GNWTG92GG2GA2G80GAUXRH0G8UXRH0GEUXa5l0GNUXa5l0GAaD8RH0G8aD8RH0GAa5FRH0G8a5FRH0aTsRH0a2
DaTsRH20TeKyG0Te1LXHt1KyG0LXHt1KdLXHt1KyG0KdLXHt0HFPMGL0TeKyG0KdPM0d4uYO0c7xbbw0cpecq50civGRbyV0a3
vGRbpz0c850a7gGw2G0NKMA0GwG0aCyGRa8J0NKGwG0HmME5G6NKMA6a69a4I6abzMA3bhL3aPK0ae1Gw0NKGwG0NKMA0GwcXr
bOra1A0aY6Gw0NKGwG0aOsMA3aao0cgqGw0LvGw0bYaGw0cuFGw0GwG0a69a4I0cMWGw0bKbGw0bKaGw0a8YGw0GwcoYGCa1t0
a8YGwG0NKMA3JzMA0GwG0cjcUl4G6ae1RV5abzMA0aLmGw0d4wGw0assGw0aB2Gw0a6KGw0cMgGw0GwG0bzaGRcqe0aLmQXaY6
Gw0a1EGwG0HmME0asuGw0baJGw0adsGw0cgdGw0cpEGw0bg3Gw0bzka6KGw0GwG0HmME0bm6Gw0GwG0HmMEG6a69a4I1cY9Ilb
aI0auQGw0bbGGw0aCHGw0aLpGw0GwZjME1G0c53a9G0a7gPLGwG0NKMA0PLGwG0aCyGRa8J0NKPLGwG0HmME4aOsMA0PLGwG0d
55aCK0a8YPLGwG0JzMA0aB2PLGw0a6KPLGw0adsPLGw0aCIa1EGw1NKGw0cuaGw0GwG0aYWMA2JYbfdaO52a2raO50Neb0ybOk
0cYQYU0bi5YU0chXYU0bhbNeaXvGFKP0NeaXvaJURdIlb3o1a1E1G0aB2Gw2bbKRd0J7ItISLt0JNItISLt0J7IVISLt0JNIVI
SLt0HqJ7ItISLt1JNItISLt1J7IVISLt1JNIVISLt0J7ItISS7Lt0JNItISS7Lt0J7IVISS7Lt0JNIVISS7Lt0GaJ7ItISS7Lt
1JNItISS7Lt1J7IVISS7Lt1JNIVISS7Lt0J7ItISSG0JNItISSG0J7IVISSG0JNIVISSG0GaJ7ItISSG1JNItISSG1J7IVISSG
1JNIVISSG0bkhaXhGxIy4IlGPGx0chAaXhGxIy4IlGPGx0GnZ60HaZ60GZZ60HNZ60LXKCOlIy0GaLXKCOlIy0KCHmOlIy0GaK
CHmOlIy1SBIy0WkSBIy0LlGaGJHqIZKaGLIy3IZKaGLIy2HXGJIZKaGLIy0GaY2Iy0LlY2Iy0GaLlY2Iy0KwGaLa2LwLa0a0PX
G0Lwa0PXG0Z60biD0aaaaRv0a3MSH0bj2acN2G0OJWM0acN0c5Z0HFcSQ0ciu0cqD1SH0a5p0Yla5p0cqh0a5pIC0c6u0asb0Q
3aMm0a37SH0Yla37SH0aba0Ylaba0aIG0YlaIG0cSwcwg0bOtaDY0au7bzf0cq90c7h0Sqa3M0aCna3M0Sqb2d0arVcqE0aBy0
cUu0chZ0HEZSHF0GdZSHF0a6DG50a37b3BaYBHF0M3PTIUaB10aLx0JYa72G50aa2GW0JYaa2GW0aBEaRrIlbplUIGW0MIIdaR
rGW0cOjPAGW0cEnPAGW0b0B0JYb0C0aIz0SqaIz0aWN0JYcMJ0b4kKN0c5KGW0d4pGW0cTU0V0GW0cpd0PAb5z0cf70aIc0aId
0cLxRN0bLm0ayZb5j0GAaS30HQG0QuVE0cPHG50IpVtaCQ0b12GW0bfFGW0bL7G6aRJ0aCHar60aZRaya0azqV30azh0UIGRd4
x0cJJG50aZRcqg0cjf0cKt0bj4cnb0bm70bXB.1F6DD0cO5cgf0a4q0HLb1k0a1QG6ae50aBx0a2qXb0c7w0a3MacM0aTwaJM0
Oea9UTb1Tb1G2Tb0G2Tb0cEsTb0TbaLW1au1.1F6F00aYx0YlQ3aMm0bPjaRv0cLtaBy0aZ00aTwaZ00b2w0cgb0a7JcXn0cgS
0auscTq0cNRaDY0aYVaZv.1F7000asHGWJjcR83a593Q33OQ3PA3atV3atUcSz4cT04cy74cy83adc3cxy3cxz3aCl3cNCaCl3
GPaCl3aTNZK4cjz4ck03b5a3Qv3cDN3cyA3cyB3aYTQv4cXS3a1L3cfw3a8BUG4cK13aKdGRa8B3aY4GRa8B3VDUG3bpbUG3ZK
GRVD3aKdGRVD5bKv3VDaHo3QvGRVDaHo3ZKGRQvGRVD3cwk3cp7UG3bxlUG3UwUG3ZKGRUw3QvGRUw3ZKGRQvGRUw3adcGRUw3
aY4GRUw5atE43cT33cT43cT53asN3asO3c483cXL3au33cSp3cSq3auq3b0UUG3cmv3cmw3cR4byn3b0o3b0p3b0q3asX3a2q3
aCS3cp93aOX3adp3cOp3b2m3csD3b33c7q3cY1GRbqo3aJm3a4b3ciqa4b3bzL3aa43cug3RfaMA3aI83a3AaI83a5i3cOqa5i
3asY3aaeckHaae5cjF3ck13cOz3bQE3bQC3bQD3cPq3cPy3bLO3bLP3bLQ3bLR3bLS3aHZ3aIcGRc4M5cwT3cTW3aPN3a2f3bO
13a9Y3GqaM14aVu.1F7800GPMKa1gG8HQ1Oea1gG8HQ1LWa1gG8HQ1POa1gG8HQ1aCIG2Gz0HZKdGSGz0KdGSGz0GaGSGz0KwG
aGSGz0VYGaGSGz0GSGzThGPG2Gz0PjaCw0GPZQGx1aCIG2Gx0HFGSGx0HZGSGx0KdGSGx0GaGSGx0KwGaGSGx0VYGaGSGx0GSG
xThGPKwG2Gx4HZGx0GxaCw0GPZQJe1KwG2Je1HZG2Je0GSJeThGPKwG2Je4HZJe0JeaCw0GPZQOr1KwG2Or1HZG2Or0GSOrThG
PG2Or0a4PLIJD0HFLIJD0HZLIJD0KdLIJD0KwKdLIJD1GaLIJD0VYGaLIJD0a4PQC0HFQC0HZQC0KdQC0GaQC0KwGaQC0VYGaQ
C0HFGXN3JC0HZGXN3JC0KdGXN3JC0GaGXN3JC0KwGaGXN3JC0VYGaGXN3JC0HFGgN3JC0HZGgN3JC0KdGgN3JC0GaGgN3JC0Kw
GaGgN3JC0VYGaGgN3JC0HFGhN3JC0HZGhN3JC0KdGhN3JC0GaGhN3JC0KwGaGhN3JC0HFGNK2GPIg0HZGNK2GPIg0GNK2GPIg0
HZGNK2RvIg0HFGTK2GPIg0HZGTK2GPIg0GTK2GPIg0HZGTK2RvIg0LwHFGTK2RvIg0HFGXK2GPIg0GaGXK2GPIg0HZGgK2GPIg
0GaGgK2GPIg0GgK2RvIg0HZGhK2GPIg0GaGhK2GPIg0KwGaGhK2GPIg0GaGhK2RvIg0HFOdK2GPIg0GaOdK2GPIg3RvIg0IpHQ
0NbIpHQ0IpGx0NbIpGx.1F7E00IJWNGz1ZmGz1SaGz1aBCGz1a5jGz1P1Gx1SFGx1WNGx1ZmGx1SaGx1aBCGx1a5jGx.1F7F00
GaK0G5.1F8000GnG7G0G2HQIF0HaG7G0G2HQIF0GZG7G0G2HQIF0HNG7G0G2HQIF0GnG7G0HZHQIF0HaG7G0HZHQIF0GZG7G0H
ZHQIF0HNG7G0HZHQIF0GnG7G0IJHQIF0HaG7G0IJHQIF0GZG7G0IJHQIF0HNG7G0IJHQIF.1F8100GnG7G0G2LTIF0HaG7G0G2
LTIF0GZG7G0G2LTIF0HNG7G0G2LTIF0GnG7G0LTIF0HaG7G0LTIF0GZG7G0LTIF0HNG7G0LTIF0GaGnG7G0LTIF1HaG7G0LTIF
1GZG7G0LTIF1HNG7G0LTIF1GnG7G0IJLTIF1HaG7G0IJLTIF1GZG7G0IJLTIF1HNG7G0IJLTIF0GnIDG7G0WILz0HaIDG7G0WI
Lz0GZIDG7G0WILz0HNIDG7G0WILz0GnIDG7G0HZLz0HaIDG7G0HZLz0GZIDG7G0HZLz0HNIDG7G0HZLz0GnIDG7G0KdLz0HaID
G7G0KdLz0GZIDG7G0KdLz0HNIDG7G0KdLz0GnIDG7G0GaLz0HaIDG7G0GaLz0GZIDG7G0GaLz0HNIDG7G0GaLz0GnIDG7G0KwG
aLz0HaIDG7G0KwGaLz0GZIDG7G0KwGaLz0HNIDG7G0KwGaLz0Gna16G70Haa16G70GZa16G70HNa16G70GnK3G70HaK3G70GZK
3G70HNK3G70GnSKG70HaSKG70GZSKG70HNSKG70GnGaSKG70HaGaSKG70GZGaSKG70HNGaSKG70GnGaG70HaGaG70GZGaG70HN
GaG7.1F8500GnLlG70HaLlG70GZLlG70HNLlG70J7ItLlG71IVLlG70JNIVLlG71ItLlG70GAG8LlG70GfGpLlG7.1F8600adx
GnHFHWG71HaHFHWG71GZHFHWG71HNHFHWG71J7ItHFHWG72IVHFHWG71JNIVHFHWG72ItHFHWG71GnHWG71HaHWG71GZHWG71H
NHWG71J7ItHWG72IVHWG71JNIVHWG72ItHWG71GnHZHWG71HaHZHWG71GZHZHWG71HNHZHWG71J7ItHZHWG72IVHZHWG71JNIV
HZHWG72ItHZHWG71GnGaHWG71HaGaHWG71GZGaHWG71HNGaHWG71J7ItGaHWG72IVGaHWG71JNIVGaHWG72ItGaHWG71GnKwGa
HWG71HaKwGaHWG71GZKwGaHWG71HNKwGaHWG71J7ItKwGaHWG72IVKwGaHWG71JNIVKwGaHWG72ItKwGaHWG7.1F8900GnHQIF
0HaHQIF0GZHQIF0HNHQIF0GnGSG7UrHQIF0HaGSG7UrHQIF0GZGSG7UrHQIF0HNGSG7UrHQIF0GnG7G0RqIo0HaG7G0RqIo0GZ
G7G0RqIo0HNG7G0RqIo0GaG7LzZiGF4GES34GFGq5P80Gnb0wGSG70GZKGaBtGSG70GnJUaBtGSG70GZJUaBtGSG70Gna8tGSG
70GZaBYGSG70GnaBYGSG70GZa8tGSG70Gna5QP4GSG70GZa5QP4GSG70Gna7QP4GSG70GZa7QP4GSG70GSG7LzZiGF4GES3.1F
8B00G7ISHaUiJ7It2GZUia6OJNIt.1F9000IpJDbbYG0GTH04GEH030GAGqGzG0GTH04GNH04GEH04GM30bV4aN7GU2RqGU2GU
G0GM2RqGUG0GM0cNmLU0GSKf0a5jKf0cNnKP0dAOGw0c7dGw0GwG0abt0cBYGw0coGGw0GwG0bi20cUgGw0aPPGw0G5GRJpaPK
0a5uKXKP0LCPGGRKP0a2Ba7F0a3aa7F0bhV0KPG0HAG6GbLUOi0GKa94d80KPG50GwG0bLDTv0b62Gw0cAJGw0aYWIUJpQhbxb
0bVAGw0c0FGw0GwYp0cguGw0GwG0GFbYgLC0a7gGwG0IgMA3GFIJG6GFG2RV0GwG0SXa6IJzU50ccrGwG0aCta6IME0NKGwG0N
KMAG6KPa6IME0GwG0HmMEcyO0cenGwG0bYYMY0aXGTY0b1E0cL5Gfa4U0cce0cP80MDIlcsG0aTva610cfF0NebQfb3D0bqw0b
aQ0c7McMY0d530PAcOV0bhT0bQNa9G0d4WXk0XbG0bVD0aKPbfL0cryVj0aCT0a1Ka9v0cU60RYUIYT0UOUIYT0P8UIYT0b10b
fO0c4JaI6cuQ0bLgaCc0bwVa4CG6PH0ch60a7Ja0g0bLM0auz0bLZ0ayS0aXC0b3A0aybaJZ0SacXO0ceDaAbGRa1A0cjeaNK0
aMT0VjGRc6p0cMH0bu00cLG0bVK0bbbaKY0cmgKy0b520a5fG0aCT0XUG0cjG0b7l0b1L0aWj0cP60a6PGRa2M0cXa0b2va1A0
bxnSa0c3w0LAa5s0ayY0NKGwG0NKMAG6GNNC0d76Gw0NKGwG0cnL0GwG0aAiK4G6aAiTv2cuNMAG6R9ME0cKNGw0bbmGw0cDG0
bQ9Gw0GwVoPGaCy1G0cO7MA0aYw0bwOaKR0bfW0bj3aJS0VdUS0bLG0bz0Gw0cY70cs50cuPGw0aMN0bVF0a5X0ceK0cKP0aNY
Gw0b1u0a6a0bfi0bz90cTf0aZU0chy0bfDGw0d9eGw0bi80cXq0clb0aKc0bry0bzA0cMG0bj50cLk0cSG0bzH0c7s0c6V0aIX
0ckX0c3r0bQd0cgm0cKI0cJy0cgW0bb70cKS0aIo0b0V0aBl0bgFVO0cPDb2t0aMhb85P1Tu2L5Tu2ayh2GSTu0a0H0NG0a1B0
a4X0ckJ0ckL0aBecxb0VRG0bi6art0c7vaE70c44aE70c50XA1NG0b4Pd490bLc0QvceB0aIwKy0bdX0cJg0ba50d3i0b1t0c4
VaM50Sca6M0RHcnI0cqf0cinNe0buMNe0bObNe0GwG0c7g0aHO0a600aVhaHO0azeNe0NeG0bi41IlcizcUn1b5u1Ila2Ha380
c3Y0ba30cwR0c5P0bXE0bdz0dAW0b190WNKf0b0Ja0L0cY00bfP0aKR0ch50P1bf6RS0ban0bqKcQ1T60cnjcrt0cMpLh0bQaG
JbiE0b810aqz0Q3bYb0cpr0a5i0c3a0aS30bzja0I0chmGRaD90PHGRd6w0aBeaWr0cnPaIm0b1N0az10cUjGRa2w0GlGRaa40
chl0cSr0cAOash0LvKHMv2Nf2Pi2PI2Kr2Pf0GSKHKrIWa7MIv0GPKHKrIWa7MIv0LvKHKrIWa7MIv0GSKHMvIWJnIv2NfIWJn
Iv2PiIWJnIv2PIIWJnIv2KrIWJnIv2PfIWJnIv0GPKHMvIWJnIv2NfIWJnIv2PiIWJnIv2PIIWJnIv2KrIWJnIv2PfIWJnIv0L
vKHMvIWJnIv2NfIWJnIv2PiIWJnIv2PIIWJnIv2KrIWJnIv2PfIWJnIv0GSKHKrIWGFGraD5Iv0GPKHKrIWGFGraD5Iv0LvKHK
rIWGFGraD5Iv0GSKHHqMv3Nf3Pi3PI3Kr3Pf0GPKHHqMv3Nf3Pi3PI3Kr3Pf0LvKHHqMv3Nf3Pi3PI3Kr3Pf0GSKHKrIWGEGra
4hIv0GPKHKrIWGEGra4hIv0LvKHKrIWGEGra4hIv0GSKHMvIWGEGrK5Iv2NfIWGEGrK5Iv2PiIWGEGrK5Iv2PIIWGEGrK5Iv2K
rIWGEGrK5Iv2PfIWGEGrK5Iv0GPKHMvIWGEGrK5Iv2NfIWGEGrK5Iv2PiIWGEGrK5Iv2PIIWGEGrK5Iv2KrIWGEGrK5Iv2PfIW
GEGrK5Iv0LvKHMvIWGEGrK5Iv2NfIWGEGrK5Iv2PiIWGEGrK5Iv2PIIWGEGrK5Iv2KrIWGEGrK5Iv2PfIWGEGrK5Iv0GSKHKrI
WGNGrQ2Iv0GPKHKrIWGNGrQ2Iv0LvKHKrIWGNGrQ2Iv0GSKHVV0GPKHVV0LvKHVV0GSKHVVIWJnIv0GPKHVVIWJnIv0LvKHVVI
WJnIv0GSKHaQp2aQq2aQo0GPKHaQp2aQq2aQo.1FA600d5hP1aNz2aT22a6z2Rf2XL2aJp2aa71GPaNz2aT22a6z2Rf2XL2aJp
2aa7.1FA700ayjceo0cJcckb0b1J0aC30abwaYu.1FA780bVBGRaJI0arHayn0cj20d5J0bLU.1FA800d7v0btx0cLe0aJR0c3
Zd3o0cNl0cBaaLu.1FA900cUHcO20aK60cSg0a5N0bQQaRJ0ayp0a9Ua1V0ar70HrXb0b7p0aJqaBi0cYA0bwW0GU0aTg0adz0
cOG0cd1cBT0buO0b1T0UDcqI0cpt0aOr0cNz0aYT0aTgPH0aPbXK0HXaIe0bhP.1FAB00a7I0d4v0aIr0b7j0cOkcO30aEB0a1
40a2H0bKy0TkaUY0aUYG0bWv.1FAC00aslKf0bzy0aWSaPP0aXGMD1Ne0NeG0aKh.1FAD00b0h0V3aWU0aVj0aNK0cmk0bbM0c
nK0cOnaRo0azd0aPz.1FAE00c5DGw0cXTGw0GwG0HmMAG6KPH4ME2cMLRV2JHME0JlI8Gw0aJ5a8z0a5l.1FAF00KPG0HASXG6
HwOi0GZKP0GnKP0YpGpKP1GfKP0HAISLQJpcxt0KfRd.1FB000Ibcd41cdY1cd51cdn1cdK1cdZ1cd61cdv1cdR1cdh1cdD1cd
o1cdL1cda1cd71cdz1cdV1cdk1cdH1cds1cde1cdA1cdw1cdS1cdi1cdE1cdp1cdM1cdb1cd81ce11cdX1cdm1cdJ1cdu1cdQ1
cdg1cdC1cdy1cdU1cdG1cdr1cdO1cdd1cd91ce01cdW1cdl1cdI1cdt1cdP1cdf1cdB1cdx1cdT1cdj1cdF1cdq1cdN1cdc0HP
GAIbJHHPGbGAGOHPIi9G84HkGbGAGOHPIi9G85GAGOHPIi1G8IbJHHkGbGAGOHkIi9G84HPGbGAGOHkIi9G85GAGOHkIi5GbGA
GOHkGbG85IiGOHPGbG85GAGOHPGbG85IiGOHkGbG85GAGOHkGbG85IiGOHkG81GAIbJHHkIiGOHkGbG85GAGOHkGbG85IiGOHP
GbG85GAGOHPGbG85IiGOHPG85GbGAGOHPGbG80HkG8IbJHHPGbGAGOHPIi9G84HkGbGAGOHPIi9G85GAGOHPIi1GAIbJHHkGbG
AGOHkIi9G84HPGbGAGOHkIi9G85GAGOHkIi5GbGAGOHkGbG85IiGOHPGbG85GAGOHPGbG85IiGOHkGbG85GAGOHkGbG85IiGOH
kG81G8IbJHHkIiGOHkGbG85GAGOHkGbG85IiGOHPGbG85GAGOHPGbG85IiGOHPG85GbGAGOHPGbG81G6G8G6HPM3GNO7Ib0GAG
6HPG6G8M3GNO7Ib0HkG6GAG6HPM3GNO7Ib0GAG6HkG6G8M3GNO7Ib1M3GFKEIb0HkM3GFKEIb0G8M3GFKEIb0HPM3GFKEIb0Gd
GFKzaJC3aJD3aJE3aJF3aJG3aJH0HEGFKzaJC3aJD3aJE3aJF3aJG3aJH0GAG6HPGFKzIb2HkGFKzIb0G8G6HkGFKzIb2HPGFK
zIb0HkG6HPGFKzIb0HEGFKzb0d0HkGFKEIb1GNNuIb1GXNuIb1GNO7Ib1GoNuIb0G8GFKEIb1GNNuIb1GXNuIb1GNO7Ib1GoNu
Ib0GAGqHZOA0G8GqHZOA0HkGqHZOA0HPGqHZOA0QlHZOA0HkGqIbG6HPGqQlHZOA2QlHZOAG6HPGqIb.1FB940GAGqQlHZOAG6
G8GqIb0a0PXGOR0Qla0PXGOR0GaHEOR0HkGAGOHPG8OR1G8GOHPGAOR1G6HPM3GqIb0GAG6G8M3GqIb0HkGAM3HZOA1G8M3HZO
A0HPG8M3HZOA1GAM3HZOA0KyaM3HFJHHkIiGOGbGA8G84GbGAGOHPIi5G8GOHPIi4HkIiGOGbGAGOHPIi8G8GOHPIi4GbGAGOH
PIiGOGbG87HkIiGOGbG84HkIiGOGbGAG6GbG8GOHPIi8G8G6GbGAGOHPIi9GOHPIiGOGbGA8GAGOHPIiGOGbG84GbGAGOHkIiG
OGbG8GOHPIi5G8GOHkIiGOGbGAGOHPIi4Je3HEG0GdGV0au2Yu0QlPMGL0GAGqaBdMD0G8GqaBdMD0QlHNG7G0ObGn0GnG7G6H
kG6HPGFKzIb0GZG7G6HkG6HPGFKzIb0HNG7G6G8GFKzIb0HaG7G6G8GFKzIb0GAGqTq0G8GqTq0cyILIJD0G8HmK3GM0NbJHJD
2GbG8GOHPIi2Je0GSGaQCG0QuVE0GAP8GSG8ISHA0GbP8GSG8ISHA0G8P8GSG8ISHA0NbK3KkGL0a4Ca152G0attLC2bxoGA3G
82G0aM40GSOeaKD.1FBF00cYUHKHg2GF2GE2GN2GT2GX2Gg2Go2Gh2Gt.E00010bxRZM.E00200ZMM11L7GL1KaGL1ITG51TjG
51YsG51SB1RF1GAJQ1G8JQ1JC1GmG51IZ1a1a1IzIC1La1HKHg2GF2GE2GN2GT2GX2Gg2Go2Gh2Gt1KI1Pl1IcG51K0G51IfG5
1KkGL1XRLQ1IxG4G1GC4Hu4Hj4Hb4GH4IK4HO4HV4GK4I64HR4Gj4HB4H14GD4Ho4Ie4Gc4Ge4HS4GB4HT4Hy4Ht4Hd4Hl1GAG
xGu1LwLa1G8GxGu1HvJh1HXI81ILJh1IxG2G1GC4Hu4Hj4Hb4GH4IK4HO4HV4GK4I64HR4Gj4HB4H14GD4Ho4Ie4Gc4Ge4HS4G
B4HT4Hy4Ht4Hd4Hl1GAL5Gu1GdI81G8L5Gu1HJ0a0JZM.E01000ZccZl1cZw1ca71caJ1caU1caf1caq1cb11cbC1cbK1cbL1c
bM1cbN1cbP1cbQ1cbR1cbS1cbT1cbU1cbV1cbW1cbX1cbY1cba1cbb1cbc1cbd1cbe1cbf1cbg1cbh1cbi1cbj1cbl1cbm1cbn
1cbo1cbp1cbq1cbr1cbs1cbt1cbu1cbw1cbx1cby1cbz1cc01cc11cc21cc31cc41cc51cc71cc81cc91ccA1ccB1ccC1ccD1c
cE1ccF1ccG1ccI1ccJ1ccK1ccL1ccM1ccN1ccO1ccP1ccQ1ccR1ccT1ccU1ccV1ccW1ccX1ccY1ccZ1cca1ccb1ccc1cYX1cYY
1cYZ1cYa1cYb1cYc1cYd1cYe1cYf1cYg1cYi1cYj1cYk1cYl1cYm1cYn1cYo1cYp1cYq1cYr1cYt1cYu1cYv1cYw1cYx1cYy1c
Yz1cZ01cZ11cZ21cZ41cZ51cZ61cZ71cZ81cZ91cZA1cZB1cZC1cZD1cZF1cZG1cZH1cZI1cZJ1cZK1cZL1cZM1cZN1cZO1cZQ
1cZR1cZS1cZT1cZU1cZV1cZW1cZX1cZY1cZZ1cZb1cZc1cZd1cZe1cZf1cZg1cZh1cZi1cZj1cZk1cZm1cZn1cZo1cZp1cZq1c
Zr1cZs1cZt1cZu1cZv1cZx1cZy1cZz1ca01ca11ca21ca31ca41ca51ca61ca81ca91caA1caB1caC1caD1caE1caF1caG1caH
1caK1caL1caM1caN1caO1caP1caQ1caR1caS1caT1caV1caW1caX1caY1caZ1caa1cab1cac1cad1cae1cag1cah1cai1caj1c
ak1cal1cam1can1cao1cap1car1cas1cat1cau1cav1caw1cax1cay1caz1cb01cb21cb31cb41cb51cb61cb71cb81cb91cbA
1cbB1cbD1cbE1cbF1cbG1cbH1cbI1cbJ.000000cGP.000000aAE0ch9.000010TIGRaOq2R1.000020cjh0JsGRR1.000030b
YD0JsGRa4Z.000040bXk0bXX.000050aMn0ar9.000060Zu0asI.000070azo0aIW.000080b1O0NSPm.000090HEPm.000090
bll.000090S10JsGRI8.0000A0bXh.0000A0byL.0000A0I8Va.0000A0WKI8.0000A0cDz0I8Pm.0000B0GdPm.0000B0d2g0
aNE.0000C0G3Va0aJrZ4.0000D0bLF0aRuGF.0000E0ZHNc.0000E0LM0aRuHg.0000F0ZHIl.0000F0Lm0aLAa8ya0y.00010
0aLr0bO2.000110VJRNGF0bO3.000120VJRNGE0bO4.000130VJRNGN0bO5.000140VJRNGT0cA4.000150NbZu0clB.000160
abNaPg0JsGRa4ZIb.000170bYA0Ns.000180a0J0JsGRHZ.000190bXj0cjv.0001A0aCk0bY2.0001B0a0y0VcKT.0001C0bb
r.0001C0VtKTGT0a7hKT.0001D0bg7.0001D0VtKTGN2GE.0001E0aBPKT.0001E0cVI0VtKTGF.0001F0ZaKT.0001F0Wt0aa
D.0007F0XX.0007F0a6b0WO.000800cKpNS0I2cJKcP4.000810aPJ0b13.000820aJacMeaOx0cAT.000830JYaJaaOx0bp1.
000840HA0aUU.000850aUcI80JZ.000860TIGRaZ5Ux0JsGRaZ5Ux.000870bY00NSPmQD.000880HEPmQD.000880bln0NSPm
G0aQD.000890HEPmG0aQD.000890blm0I8PmQD.0008A0GdPmQD.0008A0d2h0T4I8Gp.0008B2Mp.0008B0cO60T4I8ayR.00
08C2Gf.0008C0cOB0LwHA.0008D1I8Va.0008D0NI0IBZHGE.0008E0cg2.0008E0ci10IBZHGN.0008F0cg3.0008F0ci20bO
6.000900VJRNaCh0aBAaDtGF.000911cuk.000910cPZ0aBAaDtGE.000921cul.000920aXR0QDcqFcit.000930cjb0a0JNS
.000940b3R0aTRaE1.000950a9g0aaE.000960TIGRaOUUx.000962aXOUx0JsGRaOUUx.000972aXOUx.000970bXl0aaA.00
0980TIGRaCh0ce5.000990IBbfvNSa880cY5.0009A0IBNSa880RNccqa88.0009B0bLX0a4B.0009C0aChabl0cJtclNaKS.0
009D0cK90aX5.0009E0cPBaTR0atK.0009F0aHycPFaKS0cAe.000AD0aC6.001A20IxG4G1J51G2G1J5.0034F0b44.0061C0
asS.007090ZLa4DKIa3zGA.00CDE0aQMG1U6.00E9D0aROG1PUaNR.00E9F3baG.00EA32L3.00EA52ML.00FD00aDEGLaJ6aC
0LsOUaBU.011EC0Qja8Id7K2d7M2ciE2d7J.0180B0bc50bc60bc70c8t0bc8.0200B0dAp0dAo0af10bzs0cUS.0202A0bzq0
cUQ0cMD0bzt0cUT0cEP.0205F0c790d4d.020660bzr0cUR0bbs0cME.021180d4BbXGa7R.024480c6TIUWtGW1JOGW.02B7A
0GnIDG7G0GJGdGV.02B7C0GZIDG7G0GJGdGV.0A0150KlNMQmGL.0AA6E0a2WG1W4Ks.0FE000cyY0d0L0d1R0d1c0d1n0d1y0
d290d2K0d2V0cyZ0cyk0cyv0cz60czH0czS0czd.0FE180a3DG3JjGdG8GSRmGu.0FEFF0b0j.0FEFF0b23cK0GL.0FEFF0dAn
.122D40aKkG5a2kJT3H4a2kQWH4QW.16E560aTGG4G1HV3Mc.16E761G2G1HV3Mc.1B0010aOwG1bVr.1D0C50aJkOuGWVea40
a0SadU.E01000czo0czz0d0A0d0M0d0X0d0i0d0t0d140d1F0d1N0d1O0d1P0d1Q0d1S0d1T0d1U0d1V0d1W0d1X0d1Y0d1Z0d
1a0d1b0d1d0d1e0d1f0d1g0d1h0d1i0d1j0d1k0d1l0d1m0d1o0d1p0d1q0d1r0d1s0d1t0d1u0d1v0d1w0d1x0d1z0d200d21
0d220d230d240d250d260d270d280d2A0d2B0d2C0d2D0d2E0d2F0d2G0d2H0d2I0d2J0d2L0d2M0d2N0d2O0d2P0d2Q0d2R0d
2S0d2T0d2U0d2W0d2X0d2Y0d2Z0d2a0d2b0d2c0d2d0d2e0d2f0cya0cyb0cyc0cyd0cye0cyf0cyg0cyh0cyi0cyj0cyl0cym
0cyn0cyo0cyp0cyq0cyr0cys0cyt0cyu0cyw0cyx0cyy0cyz0cz00cz10cz20cz30cz40cz50cz70cz80cz90czA0czB0czC0c
zD0czE0czF0czG0czI0czJ0czK0czL0czM0czN0czO0czP0czQ0czR0czT0czU0czV0czW0czX0czY0czZ0cza0czb0czc0cze
0czf0czg0czh0czi0czj0czk0czl0czm0czn0czp0czq0czr0czs0czt0czu0czv0czw0czx0czy0d000d010d020d030d040d
050d060d070d080d090d0B0d0C0d0D0d0E0d0F0d0G0d0H0d0I0d0J0d0K0d0N0d0O0d0P0d0Q0d0R0d0S0d0T0d0U0d0V0d0W
0d0Y0d0Z0d0a0d0b0d0c0d0d0d0e0d0f0d0g0d0h0d0j0d0k0d0l0d0m0d0n0d0o0d0p0d0q0d0r0d0s0d0u0d0v0d0w0d0x0d
0y0d0z0d100d110d120d130d150d160d170d180d190d1A0d1B0d1C0d1D0d1E0d1G0d1H0d1I0d1J0d1K0d1L0d1M"

end Coffer.Text
