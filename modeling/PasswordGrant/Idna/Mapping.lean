import PasswordGrant.Unicode.Packed

/-!
# Characters in names of hosts

What becomes of a character in the name of a host: it stays, or other characters stand for it, or it
is left out, or no name may hold it.

* `Fate` : what becomes of a character; `fate` : the property;
* `mapped?` : a text with every character replaced.
-/

namespace PasswordGrant.Idna

/-- What becomes of a character. -/
inductive Fate where
  | stays
  | forbidden
  | leftOut
  | becomes (cs : List Char)
  deriving DecidableEq, Repr

/-- What becomes of a run of characters. In an alternating run every other character becomes the one
behind it, which stays; in a shifted run each becomes the one at a fixed distance. -/
inductive RunFate where
  | stays
  | forbidden
  | leftOut
  | alternating
  | shifted (distance : Int)
  | becomes (cs : List Char)
  deriving DecidableEq, Repr

def charAt (i : Int) : Char := Char.ofNat i.toNat

/-- Reads the given count of characters; each is given by its difference to the one before. -/
def charsFrom (last : Int) : Nat → List Nat → List Char × Int × List Nat
  | 0, rest => ([], last, rest)
  | _ + 1, [] => ([], last, [])
  | count + 1, n :: rest =>
    let next := last + Packed.signed n
    let (cs, last, rest) := charsFrom next count rest
    (charAt next :: cs, last, rest)

/-- Reads runs; each takes a number at least. `last` is the last character that one became. -/
def runsWithin : Nat → Int → List Nat → List (Nat × RunFate)
  | 0, _, _ => []
  | _, _, [] => []
  | fuel + 1, last, head :: rest =>
    let length := head / 6 + 1
    match head % 6, rest with
    | 0, _ => (length, .stays) :: runsWithin fuel last rest
    | 1, _ => (length, .forbidden) :: runsWithin fuel last rest
    | 2, _ => (length, .leftOut) :: runsWithin fuel last rest
    | 3, _ => (length, .alternating) :: runsWithin fuel last rest
    | 4, distance :: rest =>
      (length, .shifted (Packed.signed distance)) :: runsWithin fuel last rest
    | 5, count :: rest =>
      let (cs, last, rest) := charsFrom last count rest
      (length, .becomes cs) :: runsWithin fuel last rest
    | _, [] => []
    | _, _ => []

def runsOf (ns : List Nat) : List (Nat × RunFate) := runsWithin ns.length 0 ns

/-- The runs of all characters. -/
def fateRuns : List (Nat × RunFate) := runsOf (Packed.numbers [
  "JoDaAsF0E74G3A052AsAOc04D162052AObAO46aG352AO3ANy4AQ2652ANxAQ24Gj4D5053AP3QN6QMz535QN6QN3532QN",
  "2QMz0CsAs0A4AsEcGx52ByAK80b2AK72l0xb24D6A952ABqAFrGl4Fpx4Nv04Kol4Kg420aKe4264De4K84Ka4204Ke4Ki",
  "04Kq4Km42c4Kq4Ku04Kwx4L44204L464204L4420aL2l4L642c42A0h2jOoh2O73h287Bl0Bx0h2bA84204Ed4C3Fl4G70",
  "Bxu4WAq4204I14WAk64204Jt4Cu4CyAlOu4AFf4D54AFf4AF14C94C74Bx4AEz4AExE052DzAO852AO7AOa52AO9AOg52A",
  "OfAQ452AQ3AO252AO1AOi64Fx4AHx4AHl4AHd4DdO0aCj04Bn525d4FgAc2E6l4Jd0420752ANxAY6c4ATd4Fgj52AY5AN",
  "y53ANxAOcd4B44AMzgB214Ck1aCi0BsAs1AgAsEo4g4An4Ad4p4b4h4t4A70Cx4Bz4Bn4Bl04Cb4Cj04204Bz426gG7BmD",
  "gEaAsGuElA6Hx4uB90Ox1FaBo7Gi52AH0Amc7c1I0A7DcjuBpCi1Ni52I6Da52BfBg52DmDl52BbBcPi1Gu7Io7PoB7Io7",
  "H07Bc1Di701AopE6A1Lc1Sc52AKeB652B3B452B1B252ArAs52AhAi52AfAg52xy52pqEu1A6767Ci1A010di7Ac767iA7",
  "0j52EmAi52AfAg152pqi7D07c1uj67Ci1A01052Fkk10527816701oj67cd0A152B3B452B1B252ArAs0152xyA1BoAjc1",
  "Ac1c1Ci1A0161o7Ai1c1c70Bdi7AuA1A01c1A6767Ci1A0161o7Ac767cA1cj52LqAi52AfAg1o7BuAj61udc1id61016d",
  "6dcdAujodc1i70v0B7CcpB01c1Co1Bi7Ac1c1iA161c167i7AiA1Ci1c1Co1Ai1o7Ac1c1iA16pc1i7Ai1cAvB01c1Hc1c",
  "1ujBi7D61c1BudCu1Ac107A0d0ju101A6vAi7cAvH652AQmAhA0jDoF16101o1Cu101Au52HmAhAi7o101A01Ai752dz52",
  "A0j6E7Au41Hu52HyFii1i52ExEyi52EnEoi52EdEei52E3E4Au52FlFicj652Cr20521652CgBr53BsClu52BuBt53BuCn",
  "uA052tuBo52A0B2i1i52AhAii52A7A8i52xyi52noAu52B5B2c1Bc1B0F1ZiFaOMk14OMkp4OMk7G64ArP68ALi1i7A010",
  "1i7Fo1i7Ec1i7A0101i7Bc1Ic1i7K07E6dD6vN67yf7DBi1DidNoA1CiAdCuAdC6AvB01c16AvHi8Fi7AivAivAoqAivNo",
  "A1G0pKiAjE01AujAuj0dFu7oApG6jD6vAodJ67Jo1Do7AovAivB67Gi7AuC7Lo1AAiA7IudBcdHc4MGn4MGl4MG3aMFz4M",
  "G14MFn4MEb4BWIa420pG4FK37gFK3A6A7G0pG64OSh4OL54OSj0aOSj4NXpAaOSj04OSl4NUf4OSn4OSlaOSj4OSh4OTra",
  "NSb4Cr4OTxaOTv4NS5aNS34OTz04OTv4OTt4OHj4OTt4NSxaCf4OTzaOTt4Cb4NRt4OTx4C1gNA1aMZ34OV14OUlaOUhaN",
  "Aj4MZtaMZlB04MTtEi4NX14OYl4NWz4OQv4NWp4OYn4NWn4NWl4NWfgNWb4Bf4NTl4NWb4B14NTn4NW94NWdmNWb4NW7aN",
  "Vp4OHraNVh4HnaNVj4OZ1gNVf4NF5JiXxi52HIzAGm4C764PG10OxA6Aafu7yf7A6AafA6Aafu7yf7A614f14f14f14fA6",
  "Aaf04ODx04ODz04OE104OE304OCl04OCn04OCp752OKwNWx52NX0NWz52NX2NX152NX4NX352NX6NX552NX8NX752NXaNX",
  "952NXcNXb52NWyNWx52NX0NWz52NX2NX152NX4NX352NX6NX552NX8NX752NXaNX952NXcNXb52NYqNYp52NYsNYr52NYu",
  "NYt52NYwNYv52NYyNYx52NZ0NYz52NZ2NZ152NZ4NZ352NYqNYp52NYsNYr52NYuNYt52NYwNYv52NYyNYx52NZ0NYz52N",
  "Z2NZ152NZ4NZ352OCaOC952OCcOCb52OCeOCd52OCgOCf52OCiOCh52OCkOCj52OCmOCl52OCoOCn52OCaOC952OCcOCb5",
  "2OCeOCd52OCgOCf52OCiOCh52OCkOCj52OCmOCl52OCoOCn652OD6OD552fg52pq1052OH2OH1af4D34OI152fg52AY5AO",
  "y4OHh52AOxAOy52AOxARk53ARjAOcC852OK0ODd523452lm1052OHyOHx4Dr4OIr4Dr4OIt523453AY5AOyA153ANvAOyz",
  "53ANxAOyBmc4OKx76af4Ej4OJn153ARjAP0A353ANvAP0A153ANxAP0Bkc4OK1iaf4F74OIv4d53ARjAOcf53ANvAOcd4Q",
  "Ft752OO2ODt52wv52A6A51052OKmOKl4G34OJp4Fz4OJp52wv52AY5ANy52ANxAP01At1AOz267041o520AQqAud0A14QM",
  "xc52OVe0530000526053000i52QN700521AO6A652AMf0520An520AoB054QLe000A04QPlqpw4QPn4QMj7yQPn4QQh4Vm",
  "4QPlaQQt4QN1AmQQj4QRd4Uq4QQhaQRp14QOp4QOj4QO14QNl4PMx4QOlmQOh4QOfaQObdA652QIj2D0B7EcBd53zBrBw5",
  "33BrCs4QUx52CeD90530BvCk53nBvCw4PT7052CaD3aQV5h144QKrb12b1604QVd52426gQVhb166522b53ete52gd04QV",
  "j04PAl04QVr04QWp4QPzaQXb0b1f4QXd4Ak4QX34QX1mNYl4QXn05329Aa4PCbb1ASy4PCh4Kmib1AU14QYnaQYhu53BtQ",
  "N6QMt53bQN6QMp54fQN6QN51532QN6QN1531QN4QN1533QN6QMx535QN4QMx533QN2QMx531QN0QMx537QN6QMv531QMyQ",
  "Mv539QN6QMr539QN2QMr535QMyQMr531QMuQMr52dQN64QZt52QK1053000520q4QZb520p53qp054qp00520u4QZh520t",
  "53ut04RAbaRAv4RAf4RAp520053000520q4RA7520p53qp054qp00520u4RAd520t53ut04RB7aRBr4RBbc42o53C5QN8Q",
  "N16jYu52RO40530000526053000AO6aGA2APcCjAoCdAgSTl52ROd152205202521452365258527a529c52be52dg52d3",
  "53fif531kh531mj531ol531qn531sp531ur531wt531yv541i1d541i0f541i2h541i4j541i6l541i8n541iap541icr5",
  "41iet541igv541k3dC7531C6C3531C8C5531CaC7531CcC9531CeCb531CgCd531CiCf531CkCh531CmCj531CoCl531Cq",
  "Cn531CsCp531CuCr531CwCt531CyCv531D0Cx531D2Cz531D4D1531D6D3531D8D5531DaD7531DcD9531DeDb531DgDd5",
  "31DiDf531DkDhDaSVpDaSX54TBbHJo54ROo000Q053RNp06520053000Po52WH8UQtY07VuGyBoGu4204VXt4HCv4VWx6x",
  "4VZv4VY54WA14VZz042642u4XBr4XB5aWBtPlA0lc420pGc10p07I6A14r0B7CuAdA01A01A01A01A01A01A01A01TuEjD",
  "61i4AGL4Mo4BIPgAv4PXw4QA24QAs4QB84QCm4QF04QFc4QGe4QHs4RRk4RTm4RTw4RV44RW64RXa4SA64SBa4SBu4SKe4",
  "SPk4SR24SRa4SSw4STc4SUs4SVg4SWs4SZm4TAk4TC04URy4UVw4VVe4VWm4VX04VXk4VYi4WCo4XD44XFq4XMc4XNk4XO",
  "k4XPq4XSo4XSs4YMu4YNc4YNy4YOm4YV04YVe4YVm4ZC24ZCk4ZD84ZDm4ZGy4ZHu4ZIs4ZN64AATe4AAVw4AAX04ACM24",
  "ACMa4ACQu4ACRo4ACSc4ACTg4ACVk4ACVs4ADKk4ADLu4ADNk4AFRy4AFVk4AFWs4AFZy4AGB84AGBo4AGC04AGEu4AGF2",
  "4AGGs4AIOo4AJNg4AJO24AJOa4AJOg4AJOu4AJPs4AJPu4AJUa4AKG84AKGg4AKZ84AKZq4ALCg4ALCs4ALD84ALDm4ALI",
  "m4ALIy4ALVk4ALVw4ALYk4ALZg4AMC04AMP44AMPg4AMQc4ANIg4ANPe4ANPo4ANZq4AOEi4AOH04APBy4APJa4AQP44AQ",
  "Qk4AQTo4AQWg4ARA64ARAq4ARB04ARCs4ARGy4ARHg4ASAm4ASAy4ASBe4ASBu4ASCo4ASDg4ASDm4ASHy4ASI44ASIe4A",
  "UKu4AUMg4AVMg4AVN24AVOa4AWDy4AWEm4AWIi4AWL04AXQg4AXR84AXS04AXTw4AXVw4AYGw4AYHi4AYL64AYYw4AZAk4",
  "AZM44AZN84AZNg4AZZm4BAJs4BAQo4BAQy4BAR64BCR04BCRg4BDA24BDIk4BDIo4BDL84BDR04BDRo4BDRu4BDS64BDXk",
  "4BDZe4BDZo4BEAe4BEJm4BEMe4BEMk4BEWo4BEWs4BEXs4BFLq4BFOc4BFOo4BFSi4BFT04BFT44BFTm4BFV84BGR44BHN",
  "a4BHNs4BHPu4BHR04BHRe4BHRw4BHS24BHU84BHUe4BHVa4BHVi4BHW64BHXm4BHYe4BHYs4BIC04BICs4BICyFv4ZDv04",
  "ZD7Hc4Az04SDaaSDeo1N67652AQzZMe52ZMdZMg652z4Oo52BaA6pG01aQOt4QFh4QOvaQFhgQOzyQFj4QO7gQPd4QO1Am",
  "QPfCgQL32aQQlaQGr4QGl4QGj4QGb4QG54QG34QQn4QFz4QFxaQQr4QQpaQQn4QQh4QQfsQQd4QQ94QQ34QPl4QP94QP1a",
  "QFxgQOlaQM94QM5aQLp4QLn4QL54QL1164ONc4OV24ONq4TJ44ONo4OPk4ONm4AJYe4ORu4OO84OMu4UPg4TNc4OWyKiAj",
  "Bi53ZOjIEkIEh531IEoIEl531IEqIEn531IEuIEr531IEwIEt531IEyIEv531IF2IEz531IF6IF3531IF8IF5531IFcIF9",
  "531IFeIFb531IFgIFd531IFiIFf531IFkIFh531COZ0COYx531CRMcCRM9531CST0CSSx531CVGcCVG9531CWN0CWMx531",
  "CXToCXTl531DAH0DAGx531DCUcDCU9531DEB0DEAx531DGOcDGO9531DHV0DHUx531DJBoDJBl531DKIcDKI9531DLP0DL",
  "Ox531DEV8DEV5541DDGsZoDEHd541DDGsIBgDMJ51531APO4APO1531APVwAPVt531APOmAPOj531AUK2AUJz531APWcAP",
  "W9531ARKuARKr531APOaAPO7531ARKqARKn531APTaAPT7531ASKuASKr531BDG4BDG1531BIJmBIJj531BGBoBGBl531B",
  "DHwBDHt531CAQmCAQj531AUNuAUNr531BCPyBCPv531BDW8BDW5531BDG6BDG3531BNF4BNF1531ASW6ASW3531BJMuBJM",
  "r531BXUuBXUr531BNGuBNGr531ASD0ASCx531AQAqAQAn531ATCcATC9531AWWoAWWl531BLXmBLXj531AQCeAQCb531BX",
  "WyBXWv531ASLwASLt531BNHqBNHn531AQDaAQD7531BRYgBRYd531BRYyBRYv4SDe4XDu4AAZy4ANB8A653Cy8t52Bt152",
  "205202521452365258527a529c52be52b5526352415220520252144RFnaRFlgRFj4RFhaRFfsRFd4BNM04BPZa4BRFw4",
  "BTT64BUZs4BWGe4BYTo4CBGy4CCNk4CFAu4CGHg4CHO24CIUo4CKBa52DGOiQCr52OIsWb4CCAo04OA44OHu4OAi4SVw4O",
  "I44PWk4NZy4PWc4OEu4QWc4ABRk4AGV04AEN04ABT64AZBu4SZ04ABB24ACHa4ABR64ALQ24RH24AHXo4AWFm4ALRk4QNo",
  "4ALYa4AJKe4UFg4AYH24PRi4QXs4AEVy4BCL24ONg4PXe4AEA44NYo4OAk4NYm4WQ24REi4QU84VJ24VGa4AKH64OLw4AW",
  "Ge4QVa4TZg52DDX965258527a529c529752855263524152205202521452365258527a5279522BDFm52BDFjBDFk52BD",
  "FhBDFi52BDFfBDFg52BDFdBDFe52BDFbBDFc52BDF9BDFa52BDF7BDF852BDF5BDF653BDFl1BDFo53BDFl0BDFm53BDFl",
  "2BDFk52BDCj1533ql523y53jgv4ADz4ADx4ADv4ADtaADr4ADp4ADn4ADl4ADj4ADh4ADf4ADd4ADb4AD94AD74AD54AD1",
  "4ACz4ACxyACv4ACr4ACn4ACj4ACfsACb4AC94AC7yAC5mAC352APXgCBg54SPrBmBeBv54B3D2A7Bv542DiAdC3530E0x5",
  "4CxB6B8Cp53nDeBr53Ah6D455D5yjDaBt54AtDoDhDi53DjD2C753tDkAj53BxdCw54ChCgB3a54AlCo5A053DfCmc53Cx",
  "CyA552Bn3534AmBq54DdC4aA054DbCeBdCc52DdCk55CjCkCdC6h56BtCknAiBvAy55CfCk4Bfa53AbC6h55BnC6hAbBe5",
  "5CrCcBlAbD254CfCguBl53AjD6Cp53bC4At53A9D2Ap54B7xmCc55BzCgBrCaAj54B9BuiCp53mC4Br53bC4Bd53fCcCp5",
  "2sv52A0Aw52AxBe52B98530la53eBdAs55qBeClC4Bd53iBeC354oBgv155A9BrAauAy53A9B1Cc52A9At52AsAc55A7Bv",
  "D0B3c54oBrDyBv55sA1nvCs53A7A4k55AhB9wCex52xAl53Amte53cA2B553A8AeC753AuAwCr53AuAyCd54AoC5DeBd53",
  "A4uAx52A2Ac53A7A8Bb53A0Aux53vAuh54A5C7mCg53tC7Cy53pAho53uqCb55BmA6CbBoo54A3BnCgc52A3m55lmAfBgx",
  "52jBx54ByBxAkBe54zAiBvAy53dAcBt53AiAcx539CrDi54hB5aAy5211534A9B854xyB3A6522n55oeBdA7Cm537Bfa52",
  "ZO3BINi52BINfBINg52BINdBINe52BINbBINc52BIN9BINa52BIN7BIN852BIN5BIN652BIN3BIN452BIN1BIN252BIMzB",
  "IN053BINf1BINi53BINf0BINg53BINf2BINe53BINf4BINc53BINf6BINa53BINf8BIN853BINfaBIN653BINfcBIN453B",
  "INfeBIN253BINfgBIN053BINd3BINi53BINd1BINg53BINd0BINe53BINd2BINc53BINd4BINa53BIKdgt5265520A453A",
  "11y525e52bp522i53hiC953BsiC752C0o52AYJsAYe52BFiIPp52BMiIYc52BWtCPy54BLxDYhHRxWAc52BNB3t52qp52A",
  "UqAUp52on52kj52kh52ml52a95323m541f3m528j52gf52AUgAUf52AUgAUd52cb5287522A053t5A053p9A053A12A053",
  "bnA052ATcAU3522152fg521252be522152AU2AU1520052jk52345300C953BqkC952CaC953C64C953Ca0C753BokC752",
  "C8C753C44C753C8RJoRJb54bRJoRJbCl52Cgt53kat53o6t53cit53yx655sx6RK6RJb561x6RK6RJbCl52Cg6529a52AT",
  "qATp52bc525c52fg52ATkATj52hi52lm52hi52be52hi52ATiATh52jk52no52jk52nAUw52AUrAUs152AVdu52r052025",
  "41RK8RJr71525352aA052xd52eg52da52505204523i52f252145336f52ao52ll53m7653245528f153g055264522152",
  "26522A553A4RJ6RJn53nRKcRJn52CbBCPg52BCPdBCPe52BCPbBCPc52BCP9BCPa52BCP7BCP852BCP5BCP652BCP3BCP4",
  "52BCP1BCP252BCOzBCP053BCPf1BCPi53BCPf0BCPg53BCPf2BCPe53BCPf4BCPc53BCPf6BCPa53BCPf8BCP853BCPfaB",
  "CP653BCPfcBCP453BCPfeBCP253BCPfgBCP053BCPd3BCPi53BCPd1BCPg53BCPd0BCPe53BCPd2BCPc53BCPd4BCPa53B",
  "CPd6BCP853BCPd8BCP653BCPdaBCP453BCPdcBCP253BCPdeBCP053BCPb5BCPi53BCPb3BCPg53BCMfbmGBR0dI0AdBEu",
  "C7GlBuDl4CJTj4CJThNuA7EiB96J941A6l4BWLvAlc4204CLHv6l6C94CLJf4CLK14CLJt4CLJ94CLJf04CLGn4CLHz4CL",
  "Gt4AYkBl4Bn4CLJd4BWOrl4CLLdBl4CLXhC74CMP34CMQ14CMPx4CMPd4264CMFh4CMD3HcdAivI6A7KiA7AuvS6ApDudL",
  "u1AojEc1I0AdB67Ai7Q0CvDiAju7u7uAdA01A01G64BGt4B34CNJt4pAc4CNIj6jMaCEA3Gi7AivBSOuAvCojH0jMC6ANZ",
  "j4BGL74CAW54BFBn4BGE94BWOh4COKh4CLHhb1CIB04CIIj4BDL14CKKj4CIJ74CDPt4BSL14BNLj4BJTx4BIYx4BIHb4B",
  "EDf4BZFr4BXNr4BVMl4BTVp4BKWx4BDRl4AZAd4COH94CLOx4BYRx4BUV54BJVr4AWTb4CGF14BWAh4BKBb4BICb4CDFf4",
  "BMFr4BIUj4CFKf4CAWf4BXKj4BUJd4BEBb4CNTt4CMOp4CLYd4CCDv4BYVr4BUWv4BSG34BNGp4BJZ54BJUf4BFQr4BAP3",
  "4AYGv4AWWr4BRJ54BQVp4BOP14BLFh4BCWx4AWPp4BHJd4CIS14CFIp4BPH74BNAp4BUTf4BRGd4BGIf4BATb4CISv4CGU",
  "l4BZHx4BXG94BWP54BOWb4BOHp4BBDb4CMAz4BNAr4CMOr4CMPp4BQOf4BOOt4BLEp4BBBf4BHBb4CDI34BZJr4BHIp4CO",
  "P14CHCj4CEVb4BUEn4BTDj4CLY34BRF94CNTr4CFBh4CORz4BXWr4CBX14BOYj4CLOz4CJBj4BSHv4BLB14BHOd4BYMf4B",
  "EV14BYB34CDGt4BLV54CCXx4BTF94COJx4CMX54CMRv4CAGt4BPCr4BMC54BHMx4BDRl4CMBj4CLJ34CINb4CFNj4CBU74",
  "BWEv4BREh4BBP14AYZp4AWSd4AWPd4CMH54CBGd4BYRp4BFAx4CFUv4CECp4CDWj4CCLl4BWRt4BVNb4BTT54BQWh4BOPb",
  "4BNG34BFEv4BKU94BEQx4BCY54CMPh4CMHr4CLDx4BVV54BIS74BHR54CFR94CFAn4CDCl4BYQ14BPOj4BUJj4COJn4CJY",
  "r4CHGp4CGGt4CEYz4BUGh4BTWd4BNT94BNJr4BDOt4BAZ74BAUp4BAJ74COB34BQZv4BDW94BBCz4CEOr4COPv4CNIt4CH",
  "Hb4CHCv4CBZx4BZP94BVIf4BSX54BKVr4BEO94AWI14CBN14BBLf4CMLj4CAZp4CAT34BXVp4BXCh4BUDd4BTKr4BRT54B",
  "PF54BAGv4CNBv4CDXn4BBI14CNTx4CGS34BXMz4BFI54CFJh4CEL14CAS14BULf4BBHr4CMS34CLR54CHCn4CBV14CBDl4",
  "CAKf4BYC74BUEv4BTEh4BNY54BIVf4BIUh4BDXp4BBDf4CMDf4BXCn4CLR74BVKv4BTXd4BKK74BBHb4AYE94AWXv4CBAl",
  "4BXQf4BMQf4BQNn4BQIz4BPOh4BUY74BWCv4BHMj4COQd4BLYb4CMT14CMVx4CFYh4CDR54BPL94CHR54BYAx4CBO74BFJ",
  "v4BJEj4BBNf4BIMx4CFWj4CNHn4CKVp64CJKv04CBSf64CMZd4BUTv4BSUd4BRLn4BRJt4BRJh4BRH74BAZr4BPO14BNXh",
  "04BKLj04BHTz64BEXh4BEMlc4BADt4BAD54BAAr4AXO54BEOr4BBJn4COFz4CNOn4CNJ14CMNz4CMMj4CMGj4CKZx4CKU5",
  "4CKOr4CJOl4CJIv4CHHt4CHHb4CFAd4CEOn4CEMl4CEH34CCLb4CCD74CBTj4CARt4BXZj4BXQj4BXBx4BVVb4BVKv4BUI",
  "z4BRXz4BROf4BRNv4BRNz4BRNl4BRNb4BRMzaBRKd4BRAj4BQWz4BQFb4BPA14BOYx4BOVv4BOEz4BNWv4BMVtb1OXd4BL",
  "Nn4BIYj4BIR54BHX14BHTz4BGX94BGUd4BFIb4BFB54BBKd4BAUn4BARd4CFEn4FWR44BMUd74CPFb4CNGr4CNL34COM94",
  "CNN54CNJx4CMRt4CMP14CLDl4CLHn4CLDx4CKZx4CJQv4CJLz4CJDz4CJD54CIO74CID94CGD74CGCv4CFUx4CFR74CFAn",
  "4CEU54CEY34CEQp4CETb4CEL94CEHn4CDLh4CDGn4CDDp4CCPb4CBZh4CBQh4CBQb4CBN34BZGb4BZCr4BYH34BXKd4BXL",
  "b4BXGj4BWSl4BVZz4BSPj4BVP14BVIb4BVBj4BUJf4BUB74BTYb4BTLt4BTLr4BTCb4BTBf4BTA34BSVd4BSVz4BSA14BQ",
  "Z54BQK54BPZt4BPNf4BPEz4BOMp4BOBp4BMGt4BLY54BJZv4BJAl4BIWt4BIVz4BIFj4BICf4BIEz4BIC14BIC94BID94B",
  "HZ34BHUn4BGZh4BFUf4BFD14BEMp4BEAh4BBVb4BBPn4BBJb4BBBz4BBA14BAZf4BAWt4AZIh4AWVz4FHWq4FHWc4FOEs4",
  "CZOd4CXCp4CXAx4GEVo4GKPc4HDF04AXBh4AWXdF752BSCx05206525c53b065350cb2e2Av52BS44523t52uh52A2f523",
  "dp52F0B1052CgC94EDCv4EDDxaEDDtgEDDh4EDCx4EDCv4EGGn52BsB752B8B553B6Bha53B8Bhc52sAd52AeAb52AcA35",
  "2A6A552A8A752AaA952AcAb52AeAd52AgAf152AkAj52AmAl52AoAn52AqAp52AsAr152AwAv152B0Az52B2B1152B6B55",
  "2B8B7152BcBb52BeBd52BgBf52BiBh52BkBj52AeAj52Acz52AkAj52B2B152yob1Han1kn16n14n1bn1an1bn1Ben14n1",
  "Avn11n16n12b1cb11b14b1bb1wb1dn1Acn1cn18n13b1in12b1an12n15b1A4b12Ecn1B3b1Agb11b14521Dlb1Dub1bb1",
  "8n1eb1Ghb2Ax2b21Iqb2IpAwb2AvHyb2HxHwb2HvI0h2HzIgh2IfAyn1Ga52I7c52be52dAq52ApAy52AxB052Av8527a5",
  "29c52bAm52AlAu52AtAw52Ar452365258527Ai52AhAq52ApAs52Ap2521Ag52AfAo52AnAq52An2521Ae52Ab1522Ac52",
  "A935241522Aa52zd52eb52c952aA052vf52gw52tj52kh52if52gu52rj52ks52pq52np52qo52lr52sm527A552A6A352",
  "A4A152A28527g52fi52fA552A66525e52dg52dAj52AkA952AaA752A8A552A625214523c52be52bAb52AcA952AaA752",
  "A82521a529c529Ad52AeAb52AcA952Aa05208527a527Af52AgAd52AeAb52Ac152265258525Ah52Ai352445236520An",
  "52AoAl52AmAj52Ak952a1522052AfCk52ChCi52B5B653CKrCIsa53CJ1CIu853CJ1CIw653CJ1CIy453CJ1CJ0253CJ1C",
  "J2Aq52D3m52lo52nAq52ApAs52ArAy52AxB052Avi52hk52jAm52AlAo52AnAu52AtAw52Are52dg52fAi52AhAk52AjAq",
  "52ApAs52Apc52be52dAg52AfAi52AhAo52AnAq52hg52fi52fe52dg52dAj52Ak25214523c52be52b2521a529c529An5",
  "2Ao0522A552A6A352A41522052065258521B652B3Ad52AeAb52Ac952a75281522052Azc52be52dg52fAq52ApAu52Ap",
  "8527a529c52bAm52AlAq52Al452365258527Ai52AhAm52AjAg52Ad2521Ae52Ab1522Ac52A93524Aa52zd52eb52c952",
  "aA052vf52gd52ew52tj52kh52if52gu52rj52mq52np52qo52lr52sm527A552A6A352A4A152A28525A552A66523A952",
  "AaA752A8A552A625214521Ab52AcA952AaA752A825216523Ad52AeAb52AcA952Aa0522Af52AgAd52AeAb52Ac152225",
  "20Ah52Ai3524Ba52B3An52AoAl52AmAj52Ak952a552AtAq52ApAu52ApAm52AlAq52AlAi52AhAm52AjAg52AfAk52A3A",
  "052zA452A1y52xA252725214521252215222526952a553ds653xu453xw252AfA052zA252xw52vy52vu52tw52A9A852",
  "A7Aa52A7A652A5A852AlAk52AjAm52AnAm52AlAo52AjAi52AhAk52A5A452A3A652A3A252A1A452A7f52gd52eb52cy5",
  "2x55243528752a952cA052zA252xw52vy52vu52tw52A9A852A7Aa52A7A652A5A852AlAk52AjAm52AnAm52AlAo52AjA",
  "i52AhAk52A5A452A3A652A3A252A1A452A7f52gd52eb52cy52x55243528752a9526f52gd52eb52cy52zA452A1A252v",
  "s52zd52eb52c952cf52gd52eb52is52pqb2AnB0Bu53At4Aeb3Ah615336Ac53Ah8Aa53AhAiAd533AiAb535AiA9b33Ae",
  "Ab530Aca53AlAc853A7b153ed253cdAmb3A7A0Ab53cA0Adb3eA00b3vf053gw0b3xdAc53xfAob3A7yA9b3cy053thAkb",
  "3A1fAab3rsAb53ks053rsa53xpAeb3no053no853tm053lma53vm8b3fA1Aa5356Ab53A660531A9Ac531A9Am53bA9Akb",
  "39Ab0b3AcA7Aab312Ab53AcAb153AeAbAc530AbAm539Ad253AcAdAe530A9353AeA9Aa6530Ad453Ae3Ad53Ai30532Ad",
  "Ac532AdAkb35AfAe532AfAm5351a53718b329053AlcAk53Ar4Ao53Ar4Am53Ap8Ak53Ar8Ai53ApAia53ArAi853AlAea",
  "53An2Ak53AlAe853A79Ai53A3fAm53A7dAm53A3hAm53bAbAo53b2a530AlAm530AnAo5309a5390a53f6a537AdAm53f6",
  "Ab53AaA9Ac53noa53d4a537Af253AcA9Ak53bAbAe53340531AbAe532Af25312Am53Al1Ao539AdAo53h8a53AvaAm53d",
  "4053npAe53vw053z9Ak537AfAoA6E753A5uGw53Gz4Gw54IhAm0654ArAkAhi54A4AbAcA754culo54A34A6754lmc5542",
  "A5y253vua5iA3uaCIlCGqAm06CIhCHqmc5CIhCIkA5y258AdAcCIbCH0AcAlAm654A7HmI5AmcBk4EHVv4DHRn1aEHV94E",
  "HWr4EHV5aDHQtA1Bi14DQLx4DQM1b1CEtaEHY54EHTn4EHTlaDHStaDHT5aDHTlaDHTtmDHTp64EHWb4EHW9n2ChAO6h1A",
  "Kn4EHZf4DHV774EHYt4EHYx4EHYp4EIAf4DQO3aEIA54EHVn4EHVlaDHUt4EIAr4EIAnaEIAh4EIAf4EHZn4EHZl4EHZp1",
  "4EHY3aEIB94EHZtj52ChCIq52lm52CIpCIs052CIrCIu152CItCIw52rs52CIvCIy52tu52CIxCJ052vw52CIzCJ252xy5",
  "2CJ1CJ452zA0aEEVdaEEVfaEEVhaEEVjaEEVlh1Bfb12n12b12n12n12n12n12n12b12b12b12b12n12n12n12n12n12n1",
  "2n12n12n1en12n12n12n12n12n12b12b12n12b2bAvb2AwAtb2AuApb2AqAl721EaEIJvDaEII3EyEIJvaDLYf4EIOhaDI",
  "Jr4DIKh4DHWn4DHX74DIBr4DIBp4DIBn4DIBl4DIBj4DHYd4DHYb4DHY94DIAb4DHX74DIC94DIC74DIC54DIC3aDIC14D",
  "IBz4DIBx4DIBv4DIBt4DIBr4DIBp4DIBn4DIBl4DIBj4DIBh4DIBf4DIBb4DIB94DIB7yDIB54DIB14DIAx4DIAt4DIAps",
  "DIAl4DIAj4DIAhyDIAf4DIAd4DIA7aDIF92aDZMt4DZDh4DZMvaDZDhgDZMzyDZDj4DZM7gDZNd4DZM1AmDZNfdyDZJ97y",
  "DZJd7yDZJh7gDZJldaEIP34EIOn52CGpAO44EIP34EIP74DRBx14DOS7mDQP94DOJp4DOHdBpAu1D61C0161Bc7B6EjTcp",
  "cjGcdNi1B0d0GpGiUjDodH0BdDijEuAdDupG0pDu1F0jB6FvFmB8Si7AivEyB8jEujFiA7HiAp0AsB61BgB61A4B61aB61",
  "Ao1Bc1A016dHiAvAYoAdCiAjA6Cv0aELOl4EMPx4ELRt4ELVr14ELRf4AXJb4ELRf4ELRjaELVx4DWYr4ELVz4ELVp4ELR",
  "l4ELVh4ELVn4ELVt4ELSl4EMNb4ELSn4ELVn4ELU3aELS14ELVl4DMUk4AZN54ELVn4DMUg4ELTz4DMUe4EMQnaELVh4EM",
  "Yb4ELVf4DMU6aELVd4ELVb4ELT54ELTb4AXLb4ELTd4ELV54DOX514ELUxaELTz4ELUlgEMGn4DMTa4DMUcKdu701G616d",
  "07Co1KuA7AcGvC016pEcdDcpDcF7I6jC67H616pA61c1Do7cjAiA1AcA1JiE7FcjAuAdHudDo7DcpD6A1iAvA0M7L0I1Hg",
  "CkB1HcA1GiA7AivBiCmAsdDoA76AHjE01Fu1c76BjuA7AcEdGiA7FuCjD6F7DiC7CoAdLujEuAdJ61oB1D0A1AivHo1BuA",
  "7FcAdOu1C6ApBu1GoJ7A0101i1Bc1AovIopAivi1A6767Ci1A0161o1Ai767c70v0pA07A0doApAi10701F61Ai10701i1",
  "Ai16A76DpO61oDvKuA7AiAAjHu7F6EjKcApAivB0C1IivAivC6DjDc7BcjCoADpIuPjEaAsHcAvA6707A6161Du167AuAd",
  "AiKjA67Gi7AoDdKuA7MoB1L0A1AiN7A6NjEiB7AivAc1Gc1B6AjDodE67Ci1B6L1A0161G6d0161AcA7Aivu161F0161uA",
  "1AivG6jAiANvD0A1Bo1FodDoN10BdH6B1EWoPvRc1oApAFiPW7PcB1FViBjCiAjYOopCS0AQV1IiKBvCPoA1E01AijMc1A",
  "ivDu7uAjKiAjAi1A01CcpC0BSvIiAFvEaAsIopD4Ai7D0G7LcjIcA1BoJjoApA0AdAUH6FpE6P1S0BCT1i1A0161AVcBd0",
  "Dpc70B7iA7BMuNTjQopB0dAcA1Ai7ikYE7AIiDaIQVpAmIQZvcdBTivCoBdBoBdGi7CoAdS6IvANuAjFc7Ho52IRWas52p",
  "q53pqi53A7qk53A9qm53Abqo53AdqqB6A8Ji52CyDn52DqDp53DoDni53D8Dpi53D6Dnk53D6DpkFuCdKiT7C6AvC6AvNc",
  "AdD0VdDaIUTlDaIUV1DaIUWhA4IUXx1ByIUXxDaIUZdDaIVAt4IVC91aIVC974IVC97aIVC97mIVC91AaIVC9mIVDp14IV",
  "Dp1A4IVDp1AsIVDpDaIVF5DaIVGlaIVI11mIVI17AaIVI11A4IVI11DaIVJhaIVKx1mIVKx1sIVKx14IVKxdA4IVKx1DaI",
  "VMdDaIVNtDaIVP9DaIVQpDaIVS5DaIVTlDaIVV1DaIVWhDaIVXxDaIVZdDaIWAtDaIWC9DaIWDp4IVTl4IVF37BsIUK94I",
  "UKtA4IUK94IDW7BsIULpb1IRMzyIULp4IDXx4IUMx4IUMt4IUMr4IUM54IUMh4IUMlBsIUNh4IUO1A4IUNh4IDZfBsIUOx",
  "b10yIUOx4IEB54IUQ54IUQ14IUPz4IUPd4IUPp4IUPtBsIUQp4IUR9A4IUQp4IECnBsIUS5b10yIUS54IEEd4IUTd4IUT9",
  "4IUT74IUSl4IUSx4IUT1BsIUTx4IUUhA4IUTx4IEFvBsIUVdb10yIUVd4IEHl4IUWl4IUWh4IUWf4IUVt4IUW54IUW9BsI",
  "UX54IUXpA4IUX54IEJ3BsIUYlb10yIUYl4IEKt4IUZt4IUZp4IUZn4IUZ14IUZd4IUZhb1Ag7AmIWYfAmIWYzAmIWZjAmI",
  "XA3AmIXAnDDiBdo1BcGAvE0vuAIdA01Bo7A0161opAgIZIrgIZIpAsIZIn4IZIjaIZIh4FOP94IZAv4IZI74IZI54IZA54",
  "IZDf4IZBpAgIZKlaIZKjaIZKf4IZKdyIZKbaIZK94IZGf4IZJr4IZJv4IZJd4IZF74FOU94IZEzEd0RjGcdB67Aij6BA7E",
  "0BpIip0BY7FuAIjG0j0AEvE01CiA76AK7A01i161Bc1AFo7BiFpEmAwFujAij6DZpK6LjJ0AF7aJFV94JFV34JFUz14JFT",
  "p4JFUz4JFVb4JFUt4JFTtmJFU94JFVd4JFV34JFUp4JFVf4JFUr4JFVr4JFVnaJFW94JFW54JFW34JFVt4JFVr4JFVp4JF",
  "Sv4JFOp4JFQ54JFSz14JFX14JFWv14JFVh74JFX314JFVlmJFW14JFX54JFWv4JFWh4JFX74JFWj14JFXfaJFY14JFXx14",
  "JFXl14JFXhv4JFYnj4JFYv14JFXd14JFXt14JFXt4JFYx4JFYn14JFYz4JFYb14JFZ774JFZp14JFZd14JFZ914JFS914J",
  "FWj14JGAl4JGAf14JFZ174JGAn4JGA54JFZ54JFZl1aJFZl4JGAp4JGAf4JGA14JGAr4JGA314JGAzaJGBl4JGBh14JGB5",
  "4JGB34JGB14JFY714JFVh1aJGCd4JGC74JGC3aJGAt4JGC34JGCf4JGBx4JGAx1gJGBd4JGCh4JGC74JGBt4JGCj4JGBv4",
  "JGCv4JGCraJGDd4JGD94JGD74JGCx4JGCv4JGCtp4JGE54JGDz4JGDv14JGCl4JGDv4JGE74JGDp4JGCp1gJGD54JGE94J",
  "GDz4JGDl4JGEb4JGDn4JGEn4JGEjaJGF54JGF14JGEz4JGEp4JGEn4JGElHj6ARvG6jPiAvBc7Bc1Bc1F0Ap52AZ9752a9",
  "52cb52ed52gf52ih52kj52ml52on52qpo537C6C3531C8C5531CaC7531CcC9531CeCb531CgCd531CiCf531CkCh531Cm",
  "Cj531CoCl531CqCn531CsCp531CuCr531CwCt531CyCv531D0Cx531D2Cz531D4D1531D6D3531D8D5531DaD7531DcD95",
  "31DeDb531DgDd531DiDf531DkDh53ZEiZAdZAg4JKSb4JKRj52ZBb252A260DaJKSp52zs52hi525t52u05350c522A3D6",
  "52kj52kh52iaEo52rcDoI7D652ZGmBn52Es04IKT1B14HJQl4HNLj4HROv4IKSz4HULn4HORl4GNZt4HOQv4HUKj4HHOl4",
  "HBO54HHW74HSKp4HLEd4HSVh4HHV54HSNl4GUY14GZJt4GMN34HOUr4HRJv4HCRz4HJNr4HJD54HUUl4HUU54GKNx4HMCn",
  "4HUSb4HRO94HJHv4GMCr4HJRz4GXAd4GWMl4HRNf4HDB14HHD94HHDd4GZJx4HSK94HQPv4GKAfj53HtADCkADCh531PJ2",
  "PIz531PQcPQ9531WT2WSz531AIIeAIIb531AALmAALj531ALReALRb531RZqRZn531ACCiACCfA14HLGl4HRQfB7uYjFH0",
  "dBodB0dAJ6vAuj0BdAujI6A7AivFiA7Du7Auj6B7AcFdBE6A7B67B0dAodIc10jBi7AujAiA1Xc1O6AmJQSb0FOdJMUuE7",
  "ABB67AJZ67AUWcBdCYiOTv4NHX54NHXh4NHX14EEA54NHH74NHCx4NHC94NGYd4NGRr4NGQ34NGLt4NGN74NVY74EBG94N",
  "GGd4NGG14NGF74NGE74EBWf4NVX34NGF94NGD74EBU14NGCr4NGC34NHQl4NGBr4NGBb4BCX14NFXv4NFX54NVVn4NFU54",
  "NFTl4NFR74NFQz4NVSx4NFMn4NFMl4NFL54NFJzaNFJf4NFIj4NFFt4NFFf4NFEz4NFDn4NFD5h1SIo4DZEb4MPHp4NEZ7",
  "4NEY34DYN94NEXj4NEX94NEW54NENr4NETh4NESn4NEQx4NENr4NEJ54NEHr4NEE34NED9b1ABq4NEAf4NDZh4NDZ34NDY",
  "b4NDFh4NDUn4NDFj4NDQl4NDOp4NFZp4NCFl4NCVn4NCTl4NCS94NCZj4NCQb4NCQf4NCJn4DTJx4NCFv4NCFn4NCEv4NC",
  "Dt4NCDf4NBZx4DSL74DSHl4NBSf4NBPv4NBP94NBTp4NBLv4NUWd4NUVn4NBD1b1CCg4DQTf4NASv4NARr4NAQz4NAQd4D",
  "QB14NAPt4NAPh4MYUl4NAO14NUP14NAKp4NAJz4NAFh4NAId4DONt4MZYd4DONt4MZW34MZWb4MZVfaMZPv4NUG34MZOh4",
  "MZM54MZL14MZIn4NUDj4DMP34NUC74MZEx4MZEt4MZEp4MZDn4ATLp4MZAvb1IOJm4MFX3b1IMG94NTYp4DDF54CDKv4MY",
  "Vt4MYVd4NTXf4MYSv4MYQ34MYPl4MYNr4MYG94NTSx4NTUn4MYFd4DJSz4MYCn4MXVj4MXVd4MXVb4MXVh4MXSz4MXRx4M",
  "XPz4MXQt4MXQ94MXNp4MXMn4MXMh4MXL34MXKj4MXGx4MXCb4MXAf4MWTl4DHM34MWUr4MWYf4MWSh4MWR14MWLp4DGZp4",
  "MWId4MWNl4MWP74NTH74MWEn4MWDj4MWBv4MWE14NTE14MVS54MVQl4DEU34MVK34MUUr4MVEj4NSUt4MVAn4NSVv4NSXx",
  "4NGNf4NGNb4MUUr4MVAd4MGTp4NOAv4MUTp4MUTj4MUT94MUPx4MUQl4DCU74NST14MUHh4MUO14MUCp4MTZx4DCL34MTZ",
  "j4MUFr4MTS74NSOv4MTPr4MTKf4MTGj4MSW14DBG54MSTb4NSIf4MSPj4DADp4MSMt4NSFn4MSL94MSItaMSHd4CZD34DP",
  "Gt4CYX54MRZf4CXY94MRT94MRSj4MRY94MROl4MRMf4MRJb4MRMd4MRK74MRJf4MRIr4CXTf4MRNd4MQZh4MQW14NRU94M",
  "QQz4MQR94CWVn4MRCt4MQI54CWNz4CWLd4MQDf4MPX34MPYn4MPYv4NRPf4MPWd4MPTl4MPTz4MPR14ECKn4MPIp4CUXr4",
  "MPDz4CUFn4MOWb4MOVn4MOU74CSY94MORn4MOQj4CSHp4CRVd4MODz4MOD34NRB34MOBrb1QRz4MNSx4MNRt4MNQp4MNPn",
  "4MNLv4NQVf4MNGz4CPPd4MNFn4CPKd4MNCz4DMXb4MMU74CNT34CNRv4CNK54NQJj4NQIx4MMHv4CNAn4CNAr4CMYn4CMX",
  "9aMMFt4MMFv4MMDj4NQGr4MMA14NQG54NQBr4CLIb4MLPf4MLM14MLIj4NPXr4CKFn4MLB14CJZb4CJWz4MKY14MKSz4NP",
  "Tx4MKOd4MKNv4MKNn4CIKrb1KII24MKF14NPIn4CHFz4MJT74MJT34NPGt4CGUd4MJEj4NPA94MJDf4MJDr4MJC74CFDp4",
  "MIWt4NOV74MIRd4MIO54MIKh4NOSl4CDSn4CDQz4NOQp4CDIz4MHTn4CDDh4MHS94MHMp4MHM54CCGt4CCCt4MHH94CBVj",
  "4MHGh4DDIt4NOKj4MHCz4MGYj4NOHp4MGVd4NBXh4CATn4CASx4DDGf4DDFz4MGKv4MGKr4LYZd4NOCx4MGD34MGDh4MGC",
  "j4NGI14MGBj4MGBh4MGAz4MFYr4BYVl4MFYx4MFVv4MFS14MFNz4MFVp4MFN74MFKx4MFEr4MFT94MFMp4MFMn4MFLt4BY",
  "If4BXRb4BXZp4NNTn4MEWp4MEWn4MEUr4BUF14MEQj4BWSt4NNR94NNR34BWLl4BVVl4NNQp4MEDt4MED74MECn4MECl4M",
  "DZ34MEAz4MDTl4MDW34MDNr4MDSb4MDOn4MDN74NNLf4MDI94MDGj4NNJp4MDBd4MDB94BSVb4MCUx4MCUl4NNGp4MCT54",
  "NWVd4BRP94BRF34NMZd4NMYx4MBW14MBRt4MBJ54MAXx4BPL54MAT94MAS34MAN54MAI34BOBh4EBGd4MADl4MAEh4MABn",
  "4EAUh4LZP34LZJl4BKLj4BKK34LYQf4LYLb4LYJl4BJSh4LYJ54LXTdaLXKl4LXPr4LWUn4LWT54BHCp4LVYh4NLMv4LVW",
  "54BGHr4NLIj4LVHf4NAN34LVC74BEFx4BDU54NLBb4NLAx4LURz4BCSt4NKXr4BCL5b1ILLn4LUO94BBVd4LUE34NKQz4L",
  "UA94LTTb4LTRv4LTOl4NKIn4AYVx4LSZf4LSIp4LRY94NJUp4NJT14LRSj4AVUf4NJSl4AVRh4AVCt4AUVl4LQZz4NJNn4",
  "LQWn4LQWf4LQW34LQVl4LQV94LQT94ASZ9IPvAEQ0pBBJuFRLPvAMwAVIC7"])

/-- What becomes of the character at a place of a run. -/
def RunFate.at (f : RunFate) (c : Char) (offset : Nat) : Fate :=
  match f with
  | .stays => .stays
  | .forbidden => .forbidden
  | .leftOut => .leftOut
  | .alternating => if offset % 2 = 0 then .becomes [charAt (c.toNat + 1)] else .stays
  | .shifted distance => .becomes [charAt (c.toNat + distance)]
  | .becomes cs => .becomes cs

/-- What becomes of a character. -/
def fate (c : Char) : Fate :=
  match Packed.locate? fateRuns c.toNat with
  | some (f, offset) => f.at c offset
  | none => .forbidden

/-- A text with every character replaced; `none` if it holds a forbidden one. -/
def mapped? : List Char → Option (List Char)
  | [] => some []
  | c :: rest => do
    let rest ← mapped? rest
    match fate c with
    | .stays => some (c :: rest)
    | .forbidden => none
    | .leftOut => some rest
    | .becomes cs => some (cs ++ rest)

end PasswordGrant.Idna
