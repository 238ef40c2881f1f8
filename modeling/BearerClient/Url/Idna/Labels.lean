import BearerClient.Url.Idna.Composed

/-!
# Rules for labels

A label of a host name may not start with a mark, it may hold joiners only where they change the
shape of letters, and in a name with text that runs from right to left each label keeps to one
direction.
-/

namespace BearerClient.Url.Idna

/-- Combining marks (`M`). -/
def markRuns : List Run := Run.table "
  Nlc M35 N7m M8 N7a M19 N1 M1 N1 M2 N1 M2 N1 M9 N1s Mb N1c Ml Ng M1 N2t M8 N1 M6 N2 M2 N1 M4 Nz
  M1 Nu Mt N2h Mb N1m M9 N9 M1 No M4 N1 M9 N1 M3 N1 M7 N15 M5 N1m M8 N16 M1m N1i M3 N1 Mi N1 Mf N2
  M2 Nt M4 N1j M1 N1 Mg N9 M9 N2 M4 No M7 N1j Mw Nk M2 N3 M1 Nb M4 N1j M1 N1 Mi Ni M4 Nk Mb N1j M1
  N1 Mx N3 M4 Ns M1 N1n Mi N7 Mf Nq M5 N1j M1 N1 Mq Na M4 Nr M3 N1k M1 N1 Mu N6 M4 Nd Mh N1j M2 N1
  Mg N9 M1 Na M4 Nr M4 N1x Ms Nc M2 N1p M1 N2 Mb N8 M8 N2q M1 N2 M9 Nb M8 N20 M2 Nr M1 N1 M1 N1 M1
  N4 M2 N1d Mk N1 M2 N5 M1d N8 M1 N2s Mk Nn M4 N4 M3 N1 M3 N2 M7 N3 M4 Nd Mc N1 M1 Na M4 Njj M3
  Nqa Md Nj M3 Nt Me Ni Me N1i Mu N9 M3 N4l M2 Ny M1 N3a Mw N5z M7 N1j M17 N1c Mv N1d M5 N1b Mh
  N12 M9 Nc M3 Nu Md N1k Mm N14 Mn N45 M3 N1 Ml N4 M1 N6 M1 N2 M3 N5i M1t Njz M1g N2cr M4 N3w M1
  N2o Mw Nfe M6 N2x M4 Nn9u M4 N1 Ma Nw M2 N28 M2 N7k M1 N3 M1 N4 M1 Nn M5 N4 M4 N28 M2 N1e Mq Ni
  Mi Nd M1 N12 M8 Np Mo Nx M4 N1b Me N10 M1 N1v Mn N3 M1 N8 M4 N17 M3 N1e M1 N1 M3 N2 M2 N5 M2 N1
  M1 N15 M5 N5 Mc N6a M8 N1 M4 Nfn2 M44 Nha M11 Nqg M3n N2o M1 N45 Ma N1a9 Mf N14 M8 N4l M6 Nft Mc
  Naj M2 N28 M3 N1y Mb N1d M4 N3e M3 N1h Mf N15 M1 N2 M2 Na M4 N19 Mb N7 Me N1c M3 N10 Mf Nf M2
  N18 M1 Nc M3 N1c Me N8 M4 N1 M2 N2k Mc N6 M1 N2 M1r N2n Mh Ng M5 N1i M2 N1 Mi N7 M6 N5 Mu N51 Mi
  Nn M1 N29 Mk N6j Mi Nr M10 N1c Mh N2y Md N2t Mj N70 Mf N6t Mf N1 M1 N1 M2 N3x Mg N3 Ms N1 Ma N14
  M7 N1 M4 N8 M9 N1 Mb N1a Mg Nb9 Mh N2a M32 N1d Ml N1 M9 N1m Me N9n M4 N9 M2 N1 M1 N1c Mf N459 M1
  N6 Mp Nas0 M5 N1n M7 Nt4 M1 N1 M1u N29 Me Nf57 M2 N3mp M28 Net M5 N3 Mm N2 M7 Nu M4 N44 M3 N1iz
  M1j N4 M1e N8 M1 Ne M1 Nm Mv9 N74 M74 N1c M7 Naf Mi N18 M4 Ne4 M4 Nrk M2a Ny M7"

/-- How letters join: to the left (`L`), right (`R`) or both (`D`), causing joins (`C`), or
transparent (`T`); all others do not join (`U`). -/
def joiningRuns : List Run := Run.table "
  Ulc T35 U7m T8 U7a T19 U1 T1 U1 T2 U1 T2 U1 T9 U1s Tb U5 D1 U1 R4 D1 R1 D1 R1 D5 R4 Dd C1 D7 R1
  D2 Tl Ue D2 T1 R3 U5 Df Ri D12 R1 D2 R9 D1 R1 D1 R1 D2 R2 U1 R1 T8 U1 T6 U2 T2 U1 T4 R2 Ua D3 U2
  D1 Ug R1 T1 D3 R5 D4 R1 D9 R1 D1 R1 D1 R1 D2 R1 Tt R1 Db R3 Df R2 D4 R1 D1 R2 D3 R2 D6 U12 Tb Up
  Dx T9 U6 C3 T1 Uo T4 U1 T9 U1 T3 U1 T7 Ug R1 D5 R2 D1 R1 Da R1 D1 R3 T5 U2 D1 U1 D4 U1 R1 D1 Rq
  C3 D1 U2 D5 R1 D8 T9 Da R3 U1 R1 D2 R2 D6 R1 Df U1 T1l U1j T1 U1 T1 U4 T8 U4 T1 U3 Tf U2 T2 Ut
  T1 U1m T1 U4 T6 U6 T1 Uk T4 Uo T5 U1l T2 U3 Tr Uk T2 U3 T1 Ub T2 U1l T1 U4 T8 U4 T3 Ui T4 Uk T8
  U1m T1 U2 T1 U1 T6 U6 Ta Ub T4 Us T1 U1p T1 Uc T3 U1c T1 U3 T1 U1j T1 U1 T3 U5 Ti Ua T4 Ur T1
  U1m T1 U2 T1 U6 T1 U5 T9 Ud T4 Uq T2 U1l T2 U4 T5 U7 T1 Uk T4 Ur T1 U20 T5 U3 T6 U2h T1 U2 Tb U8
  T8 U2q T1 U2 T9 Ub T8 U20 T2 Ur T1 U1 T1 U1 T1 U1j Te U1 T5 U1 T2 U5 T1d U8 T1 U2u T4 U1 T6 U1
  T2 U2 T2 Up T2 U4 T3 Ug T4 Ud T1 U2 T2 U6 T1 Uf T1 Ujj T3 Uqa T3 Ut T2 Uu Te Ui Te U1j T7 U8 T1
  U2 Tb U9 T3 U13 D1 U2 C6 Ug D2o U5 T2 Dy T1 D6 U34 T3 U4 T2 U9 T1 U6 T7 U5z T2 U2 T3 U1k T1 U1
  T9 U1 T1 U2 T8 U6 Td U1c T2c U1c T1 U1 T5 U1 T1 U5 T1 U14 T9 Uc T2 Uw T4 U2 T2 U1 T3 U1k T1 U1
  T2 U3 T1 U1 T3 U1m T8 U2 T5 U45 T3 U1 Td U1 T7 U4 T1 U6 T1 U3 T2 U5i T1t Uek C3 U5c T1g U2cr T4
  U3w T1 U2o Tw Ufe T4 U2z T4 Un9u T4 U1 Ta Uw T2 U28 T2 U7k T1 U3 T1 U4 T1 Up T2 U5 T4 Ug D1e L1
  U29 Ta Ui Ti Ud T1 U12 T8 Up Tb U1a T3 U1c T1 U2 T4 U2 T2 U13 T1 U1v T6 U2 T2 U2 Tb U3 T1 U8 T1
  U1b T1 U1f T1 U1 T3 U2 T2 U5 T2 U1 T1 U16 T2 U8 Tb U6c T1 U2 T1 U4 T3 Ufn2 T44 Uha T11 Uqg T3n
  U2o T1 U45 Ta U1a9 Tf U14 T8 U3k D5 R1 U1 R1 U1 R2 U2 L1 R5 D4 L1 D5 R1 D3 R1 U2 R1 T6 D4 R1 U40
  D1 R1 D1 R3 D3 R1 D2 R1 D1 R2 D1 R8 Ug R4 D2 U9d L1 Dx R1 D1 Tc U1l T5 U8t T2 Ul R1 D2 U1 Da U16
  T6 U1c D3 R1 Dh U1 Tb D3 R1 Ur D4 R2 Dc T4 U16 D1 U1 D2 R3 U1 D1 R2 D2 R1 D2 U1 D1 R2 D1 U4 R1
  D1 Ll Ux T1 U1i Tf U15 T1 U2 T2 Ua T3 U1d T4 U2 T2 U7 Te U1c T3 U10 T5 U1 T9 U1p T1 Uc T2 U1g T9
  Ua T4 U2 T1 U2n T3 U2 T1 U1 T2 U6 T1 U2 T1r U2n T1 U3 Td Ug T2 U1l T2 U3 T1 U11 Tq U1n T7 Uc T1
  U1 T1 U1 T1 Ue Tv U1k T8 U2 T3 U1 T1 Un T1 U2c T6 U1 T1 U4 T2 U1 T2 U6m T6 U4 T2 U1 T2 Ur T10
  U1f T8 U2 T1 U1 T2 U2y T1 U1 T1 U2 T6 U1 T1 U2t T1 U1 T1 U2 T4 U1 T9 U73 T9 U1 T2 U74 T2 U1 T1
  U4 T1 U40 T8 U4 T1 Uw Ta U14 T6 U2 T4 U8 T9 U1 T6 U2 T3 U1a Td U1 T2 U5i T1 U1 T3 U1 T1 U5l Te
  U1 T1 U2a Tn U1 T7 U1 T2 U1 T23 U1d Tl U1 T9 U1s T3 U2 T1 U1 T1 U9n T2 Ub T2 U1g T8 U2 T1 U1 T1
  Un T2e U428 T1 U6 Tp U8u6 Tc U3 T3 U1xc T5 U1n T7 Ut4 T1 U1r T4 U29 Tc Uf59 T2 U3mp T28 Uev T3
  Uh T8 U2 T7 Uu T4 U44 T3 U1iz T1j U4 T1e U8 T1 Ue T1 Um Tv9 U74 T74 U1c T7 Uaf Ti U18 T4 Ue4 T4
  U72 T2 U6r T1 U2 T1 U7 T2 U5 T9 Ucy T2a Dy Tc"

/-- Directions: left to right (`L`), right to left (`R`, and `A` for Arabic letters), Arabic (`N`)
and European (`E`) digits, their separators (`S`, `C`) and terminators (`T`), other neutrals (`O`),
boundaries (`B`) and marks (`M`); `X` occurs in no label. -/
def directionRuns : List Run := Run.table "
  B9 X5 Be X5 O2 T3 O5 S1 C1 S1 C2 Ea C1 O6 Lq O6 Lq O4 By O1 T4 Oa T6 O15 Lo O1 Lch O2 L7 Oe L2
  Os L1 Oh M35 L4 O2 L3j O2 L3v M8 L73 O5 T2 M19 R1 M1 R1 M2 R1 M2 R1 M9 R1i O2 A1 T2 A1 C1 A1 O2
  Mb A1c Ml Na T1 N2 A3 M1 A2t M8 O1 M6 A2 M2 O1 M4 A2 Ea An M1 Au Mt A2h Mb Af R17 M9 R2 O4 R3 M1
  Ro M4 R1 M9 R1 M3 R1 M7 R15 M5 R2 A1b L9 M8 A16 M1l L1j M1 L1 M1 L4 M8 L4 M1 L3 Mf L2 M2 Lt M1
  L1m M1 L4 M6 L6 M1 Lk M4 Lc T2 L7 T1 L2 M5 L1l M2 L3 Mr Lk M2 L3 M1 Lb M2 L1l M1 L4 M8 L4 M3 Li
  M4 Lb T8 L1 M8 L1m M1 L2 M1 L1 M6 L6 Ma Lb M4 Ls M1 L1p M1 Lc M3 Lz O6 T1 O6 M1 L3 M1 L1j M1 L1
  M3 L5 Mi La M4 Li O7 L2 M1 L1m M1 Lf M9 Ld M4 Lq M2 L1l M2 L4 M5 L7 M1 Lk M4 Lr M1 L20 M5 L3 M6
  L2h M1 L2 Mb T1 L7 M8 L2q M1 L2 M9 Lb M8 L20 M2 Lr M1 L1 M1 L1 M1 O4 L1f Me L1 M5 L1 M2 L5 M1d
  L8 M1 L2u M4 L1 M6 L1 M2 L2 M2 Lp M2 L4 M3 Lg M4 Ld M1 L2 M2 L6 M1 Lf M1 Ljj M3 L1c Og L2o O1
  Lii O5 L36 M3 Lt M2 Lu Me Li Me L1j M7 L8 M1 L2 Mb L7 T1 L1 M3 Lg Ow L39 M2 Ly M1 L3a M3 L4 M2
  L9 M1 L6 M7 O6 L48 Oy Ln M2 L2 M3 L1k M1 L1 M9 L1 M1 L2 M8 L6 Md L1c Mv L1d M4 L1c M1 L1 M5 L1
  M1 L5 M1 L14 M9 Lc M2 Lw M4 L2 M2 L1 M3 L1k M1 L1 M2 L3 M1 L1 M3 L1m M8 L2 M5 L45 M3 L1 Md L1 M7
  L4 M1 L6 M1 L3 M2 L5i M1t Lej B4 Ow T5 Of C1 O2j Tx Lf M1g O16 Tc Ok L1o O3s S1 T1 O82 L1x Oq L1
  O41 Lp Oh8 L1 O9f L74 Oie L1 O49 L51 O7 L3 M4 L6 O7 L3j M1 L2o Mw Oed L3 Op L9 M4 L2 O1 L6 O4 L2
  O4 L2g M4 L3 O1 L2i O1 L5g O10 L5i4 O1s Lh3k O1s L8t O3 L2n M4 O1 Ma O3 Lt M2 L28 M2 Le Oz L2t
  O1 L3d M1 L3 M1 L4 M1 Lp M2 L1 O4 M4 L8 T8 L1g Oc L1w Ma Li Mi Ld M1 L12 M8 Lp Mb L1a M3 L1c M1
  L2 M4 L2 M2 L13 M1 L1v M6 L2 M2 L2 Mb L3 M1 L8 M1 L1b M1 L1f M1 L1 M3 L2 M2 L5 M2 L1 M1 L16 M2
  L8 Mb L2x O2e L11 M1 L2 M1 L4 M3 Lfn2 M44 Ah Laj O2a L1r O29 M11 O1a Ab1 L75 O1 L1q O25 L3 O1s
  L19 M3n L2o M1 Ev L3a Ma Lw0 R7z O1 Rw L1s R3l Mf R14 M8 R4l M6 R26 O7 Rcg A10 Mc Ng L80 Nw R17
  M2 Rl L1n M3 R1c Am Mb Av Ri M4 R3e L1 M1 L1i Mf Lb Ok La M1 L2 M2 La M3 L1d M4 L2 M2 L7 Me L1c
  M3 L10 M5 L1 M9 L1p M1 Lc M2 L1g M9 La M4 L2 M1 L2n M3 L2 M1 L1 M2 L6 M1 L2 M1r L2n M1 L3 Md Lg
  M2 L1l M2 L3 M1 L11 Mq L54 M8 L2 M3 L1 M1 Ln M1 L2c M6 L1 M1 L4 M2 L1 M2 L6m M6 L4 M2 L1 M2 Lr
  M10 L1f M8 L2 M1 L1 M2 Lv Ow L17 M1 L1 M1 L2 M6 L1 M1 L2t M3 L2 M4 L1 M9 L73 M9 L1 M2 L74 M2 L1
  M1 L4 M1 L40 M8 L4 M1 Lw M6 L2 M2 L14 M6 L2 M4 L8 M9 L1 M6 L2 M3 L1a Md L1 M2 Lba Me L2c Mn L1
  M7 L1 M2 L1 M23 L1d Ml L1 M9 L1s M3 L2 M1 L1 M1 L9n M2 Lb M2 L1g M8 L2 M1 L1 M1 L42 O8 T4 Ou
  L401 M1 L6 Mp Las0 M5 L1n M7 Lt4 M1 L1r M4 L27 O1 L1 Mc Lf59 M2 L3mp M28 Lev M3 Lh M8 L2 M7 Lu
  M4 L1n O2h M3 O3f L1s O2o L1b4 M1j L4 M1e L8 M1 Le M1 Lm Mv9 L74 M74 L1c M7 Laf Mi L18 M4 Lf Tcx
  Ls M4 Lls R5s M2a Ry M7 Rme Ahr Ogw Lt O3 L1p O1l L3e Ovs L4 O4b L4 O8n L26 O9g Lc O15 L7 O1a L1
  O7 L8 Oe L4 O9 L7 O63"

def isMark (c : Char) : Bool := Run.kindAt markRuns 'N' c.toNat = 'M'

def joining (c : Char) : Char := Run.kindAt joiningRuns 'U' c.toNat

def direction (c : Char) : Char := Run.kindAt directionRuns 'L' c.toNat

/-! ## Joiners -/

def nonJoiner : Char := '\u200c'

def joiner : Char := '\u200d'

/-- The combining class of marks that suppress a vowel. -/
def viramaClass : Nat := 9

/-- Whether letters join across a place: the nearest ones that are not transparent do so. -/
def joinsAcross (before after : List Char) : Bool :=
  let nearest (text : List Char) : Option Char := (text.map joining).find? (· ≠ 'T')
  (nearest before).any (['L', 'D'].contains ·) && (nearest after).any (['R', 'D'].contains ·)

/-- Whether each joiner has a place; `before` is the text before, from its end. -/
def joinersPlaced (before : List Char) : List Char → Bool
  | [] => true
  | c :: rest =>
    let afterVirama := before.head?.any (combiningClass · = viramaClass)
    let placed :=
      if c = joiner then afterVirama
      else if c = nonJoiner then afterVirama || joinsAcross before rest
      else true
    placed && joinersPlaced (c :: before) rest

/-! ## Directions -/

def runsLeft (c : Char) : Bool := ['R', 'A', 'N'].contains (direction c)

/-- Whether a label keeps to the rules for names with text from right to left. -/
def keepsDirection (label : List Char) : Bool :=
  let directions := label.map direction
  let ending := directions.reverse.find? (· ≠ 'M')
  match directions.head? with
  | none => true
  | some 'L' =>
    directions.all (['L', 'E', 'S', 'C', 'T', 'O', 'B', 'M'].contains ·) &&
      ending.any (['L', 'E'].contains ·)
  | some 'R' | some 'A' =>
    directions.all (['R', 'A', 'N', 'E', 'S', 'C', 'T', 'O', 'B', 'M'].contains ·) &&
      ending.any (['R', 'A', 'E', 'N'].contains ·) &&
      !(directions.contains 'E' && directions.contains 'N')
  | some _ => false

end BearerClient.Url.Idna
