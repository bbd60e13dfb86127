import BodyCheck.Machine.Basic

/-!
# Bessel functions

`besselJ n` and `besselY n` are the Bessel functions of the first and the second kind.  Those of the
orders zero and one are computed directly: below two by quotients of polynomials, and from there on
as waves whose amplitude and phase are such quotients.  The other ones follow by recurrence.
-/

namespace BodyCheck

namespace Machine

namespace Bessel

/-- One over the square root of pi. -/
def rootOfPi : Float := 5.64189583547756279280e-1

/-- Two over pi. -/
def twoOverPi : Float := 6.36619772367581382433e-1

/-- A numerator, and a denominator without its constant, which is one. -/
structure Quotient where
  top : List Float
  bottom : List Float

/-- The value of a quotient. -/
def Quotient.at (q : Quotient) (z : Float) : Float :=
  polynomial q.top z / (1.0 + z * polynomial q.bottom z)

/-- Quotients for the numbers from eight, from 4.55, from 2.86 and from two on. -/
structure Quotients where
  eight : Quotient
  four : Quotient
  three : Quotient
  two : Quotient

/-- The quotient for a number of at least two, at the inverse of its square. -/
def Quotients.at (q : Quotients) (x : Float) : Float :=
  let bits := upperBits x
  let part :=
    if 0x40200000 ≤ bits then q.eight
    else if 0x40122e8b ≤ bits then q.four
    else if 0x4006db6d ≤ bits then q.three
    else q.two
  part.at (1.0 / (x * x))

/-! ## Coefficients -/

/-- The amplitude of the functions of order zero, less one. -/
def amplitude0 : Quotients where
  eight :=
    ⟨[0.0, -7.03124999999900357484e-2, -8.08167041275349795626, -2.57063105679704847262e2,
      -2.48521641009428822144e3, -5.25304380490729545272e3],
      [1.16534364619668181717e2, 3.83374475364121826715e3, 4.05978572648472545552e4,
        1.16752972564375915681e5, 4.76277284146730962675e4]⟩
  four :=
    ⟨[-1.14125464691894502584e-11, -7.03124940873599280078e-2, -4.15961064470587782438,
      -6.76747652265167261021e1, -3.31231299649172967747e2, -3.46433388365604912451e2],
      [6.07539382692300335975e1, 1.05125230595704579173e3, 5.97897094333855784498e3,
        9.62544514357774460223e3, 2.40605815922939109441e3]⟩
  three :=
    ⟨[-2.54704601771951915620e-9, -7.03119616381481654654e-2, -2.40903221549529611423,
      -2.19659774734883086467e1, -5.80791704701737572236e1, -3.14479470594888503854e1],
      [3.58560338055209726349e1, 3.61513983050303863820e2, 1.19360783792111533330e3,
        1.12799679856907414432e3, 1.73580930813335754692e2]⟩
  two :=
    ⟨[-8.87534333032526411254e-8, -7.03030995483624743247e-2, -1.45073846780952986357,
      -7.63569613823527770791, -1.11931668860356747786e1, -3.23364579351335335033],
      [2.22202997532088808441e1, 1.36206794218215208048e2, 2.70470278658083486789e2,
        1.53875394208320329881e2, 1.46576176948256193810e1]⟩

/-- The phase of the functions of order zero. -/
def phase0 : Quotients where
  eight :=
    ⟨[0.0, 7.32421874999935051953e-2, 1.17682064682252693899e1, 5.57673380256401856059e2,
      8.85919720756468632317e3, 3.70146267776887834771e4],
      [1.63776026895689824414e2, 8.09834494656449805916e3, 1.42538291419120476348e5,
        8.03309257119514397345e5, 8.40501579819060512818e5, -3.43899293537866615225e5]⟩
  four :=
    ⟨[1.84085963594515531381e-11, 7.32421766612684765896e-2, 5.83563508962056953777,
      1.35111577286449829671e2, 1.02724376596164097464e3, 1.98997785864605384631e3],
      [8.27766102236537761883e1, 2.07781416421392987104e3, 1.88472887785718085070e4,
        5.67511122894947329769e4, 3.59767538425114471465e4, -5.35434275601944773371e3]⟩
  three :=
    ⟨[4.37741014089738620906e-9, 7.32411180042911447163e-2, 3.34423137516170720929,
      4.26218440745412650017e1, 1.70808091340565596283e2, 1.66733948696651168575e2],
      [4.87588729724587182091e1, 7.09689221056606015736e2, 3.70414822620111362994e3,
        6.46042516752568917582e3, 2.51633368920368957333e3, -1.49247451836156386662e2]⟩
  two :=
    ⟨[1.50444444886983272379e-7, 7.32234265963079278272e-2, 1.99819174093815998816,
      1.44956029347885735348e1, 3.16662317504781540833e1, 1.62527075710929267416e1],
      [3.03655848355219184498e1, 2.69348118608049844624e2, 8.44783757595320139444e2,
        8.82935845112488550512e2, 2.12666388511798828631e2, -5.31095493882666946917]⟩

/-- The amplitude of the functions of order one, less one. -/
def amplitude1 : Quotients where
  eight :=
    ⟨[0.0, 1.17187499999988647970e-1, 1.32394806593073575129e1, 4.12051854307378562225e2,
      3.87474538913960532227e3, 7.91447954031891731574e3],
      [1.14207370375678408436e2, 3.65093083420853463394e3, 3.69562060269033463555e4,
        9.76027935934950801311e4, 3.08042720627888811578e4]⟩
  four :=
    ⟨[1.31990519556243522749e-11, 1.17187493190614097638e-1, 6.80275127868432871736,
      1.08308182990189109773e2, 5.17636139533199752805e2, 5.28715201363337541807e2],
      [5.92805987221131331921e1, 9.91401418733614377743e2, 5.35326695291487976647e3,
        7.84469031749551231769e3, 1.50404688810361062679e3]⟩
  three :=
    ⟨[3.02503916137373618024e-9, 1.17186865567253592491e-1, 3.93297750033315640650,
      3.51194035591636932736e1, 9.10550110750781271918e1, 4.85590685197364919645e1],
      [3.47913095001251519989e1, 3.36762458747825746741e2, 1.04687139975775130551e3,
        8.90811346398256432622e2, 1.03787932439639277504e2]⟩
  two :=
    ⟨[1.07710830106873743082e-7, 1.17176219462683348094e-1, 2.36851496667608785174,
      1.22426109148261232917e1, 1.76939711271687727390e1, 5.07352312588818499250],
      [2.14364859363821409488e1, 1.25290227168402751090e2, 2.32276469057162813669e2,
        1.17679373287147100768e2, 8.36463893371618283368]⟩

/-- The phase of the functions of order one. -/
def phase1 : Quotients where
  eight :=
    ⟨[0.0, -1.02539062499992714161e-1, -1.62717534544589987888e1, -7.59601722513950107896e2,
      -1.18498066702429587167e4, -4.84385124285750353010e4],
      [1.61395369700722909556e2, 7.82538599923348465381e3, 1.33875336287249578163e5,
        7.19657723683240939863e5, 6.66601232617776375264e5, -2.94490264303834643215e5]⟩
  four :=
    ⟨[-2.08979931141764104297e-11, -1.02539050241375426231e-1, -8.05644828123936029840,
      -1.83669607474888380239e2, -1.37319376065508163265e3, -2.61244440453215656817e3],
      [8.12765501384335777857e1, 1.99179873460485964642e3, 1.74684851924908907677e4,
        4.98514270910352279316e4, 2.79480751638918118260e4, -4.71918354795128470869e3]⟩
  three :=
    ⟨[-5.07831226461766561369e-9, -1.02537829820837089745e-1, -4.61011581139473403113,
      -5.78472216562783643212e1, -2.28244540737631695038e2, -2.19210128478909325622e2],
      [4.76651550323729509273e1, 6.73865112676699709482e2, 3.38015286679526343505e3,
        5.54772909720722782367e3, 1.90311919338810798763e3, -1.35201191444307340817e2]⟩
  two :=
    ⟨[-1.78381727510958865572e-7, -1.02517042607985553460e-1, -2.75220568278187460720,
      -1.96636162643703720221e1, -4.23253133372830490089e1, -2.13719211703704061733e1],
      [2.95333629060523854548e1, 2.52981549982190529136e2, 7.57502834868645436472e2,
        7.39393205320467245656e2, 1.55949003336666123687e2, -4.95949898822628210127]⟩

/-- The first kind of order zero, below two. -/
def low0 : Quotient where
  top :=
    [1.56249999999999947958e-2, -1.89979294238854721751e-4, 1.82954049532700665670e-6,
      -4.61832688532103189199e-9]
  bottom :=
    [1.56191029464890010492e-2, 1.16926784663337450260e-4, 5.13546550207318111446e-7,
      1.16614003333790000205e-9]

/-- The second kind of order zero, below two. -/
def lowSecond0 : Quotient where
  top :=
    [-7.38042951086872317523e-2, 1.76666452509181115538e-1, -1.38185671945596898896e-2,
      3.47453432093683650238e-4, -3.81407053724364161125e-6, 1.95590137035022920206e-8,
      -3.98205194132103398453e-11]
  bottom :=
    [1.27304834834123699328e-2, 7.60068627350353253702e-5, 2.59150851840457805467e-7,
      4.41110311332675467403e-10]

/-- The first kind of order one, below two. -/
def low1 : Quotient where
  top :=
    [-6.25000000000000000000e-2, 1.40705666955189706048e-3, -1.59955631084035597520e-5,
      4.96727999609584448412e-8]
  bottom :=
    [1.91537599538363460805e-2, 1.85946785588630915560e-4, 1.17718464042623683263e-6,
      5.04636257076217042715e-9, 1.23542274426137913908e-11]

/-- The second kind of order one, below two. -/
def lowSecond1 : Quotient where
  top :=
    [-1.96057090646238940668e-1, 5.04438716639811282616e-2, -1.91256895875763547298e-3,
      2.35252600561610495928e-5, -9.19099158039878874504e-8]
  bottom :=
    [1.99167318236649903973e-2, 2.02552581025135171496e-4, 1.35608801097516229404e-6,
      6.22741452364621501295e-9, 1.66559246207992079114e-11]

/-! ## Orders zero and one -/

/-- The wave of order zero from two on, of the first or the second kind. -/
def wave0 (second : Bool) (x : Float) : Float :=
  let s := Float.sin x
  let c := if second then -Float.cos x else Float.cos x
  let d := s - c
  let z := -Float.cos (2.0 * x)
  let (cc, ss) := if s * c < 0.0 then (z / d, d) else (s + c, z / (s + c))
  let cc :=
    if 0x7fe00000 ≤ upperBits x then s + c
    else if upperBits x < 0x48000000 then
      (1.0 + amplitude0.at x) * cc
        - (-0.125 + phase0.at x) / x * (if second then -ss else ss)
    else cc
  rootOfPi * cc / Float.sqrt x

/-- The wave of order one from two on, of the first or the second kind. -/
def wave1 (second : Bool) (x : Float) : Float :=
  let s := if second then -Float.sin x else Float.sin x
  let c := Float.cos x
  let d := -s - c
  let z := Float.cos (2.0 * x)
  let (cc, ss) := if 0.0 < s * c then (z / d, d) else (s - c, z / (s - c))
  let cc :=
    if 0x7fe00000 ≤ upperBits x then s - c
    else if upperBits x < 0x48000000 then
      (1.0 + amplitude1.at x) * cc
        - (0.375 + phase1.at x) / x * (if second then -ss else ss)
    else cc
  rootOfPi * cc / Float.sqrt x

/-- The first kind of order zero. -/
def first0 (x : Float) : Float :=
  let bits := upperBits x
  let x := x.abs
  if endless ≤ bits then 1.0 / (x * x)
  else if 0x40000000 ≤ bits then wave0 false x
  else if 0x3f200000 ≤ bits then
    let z := x * x
    (1.0 + x / 2.0) * (1.0 - x / 2.0)
      + z * (z * polynomial low0.top z / (1.0 + z * polynomial low0.bottom z))
  else if 0x38000000 ≤ bits then 1.0 - 0.25 * x * x
  else 1.0 - x

/-- The first kind of order one. -/
def first1 (x : Float) : Float :=
  let bits := upperBits x
  if endless ≤ bits then 1.0 / (x * x)
  else if 0x40000000 ≤ bits then
    let w := wave1 false x.abs
    if isMinus x then -w else w
  else if 0x38000000 ≤ bits then
    let z := x * x
    (0.5 + z * polynomial low1.top z / (1.0 + z * polynomial low1.bottom z)) * x
  else (0.5 + x) * x

/-- The second kind of order zero. -/
def second0 (x : Float) : Float :=
  let bits := upperBits x
  if x == 0.0 then -infinity
  else if isMinus x then noNumber
  else if endless ≤ bits then 1.0 / x
  else if 0x40000000 ≤ bits then wave0 true x
  else if 0x3e400000 ≤ bits then lowSecond0.at (x * x) + twoOverPi * (first0 x * Float.log x)
  else lowSecond0.top.headD 0.0 + twoOverPi * Float.log x

/-- The second kind of order one. -/
def second1 (x : Float) : Float :=
  let bits := upperBits x
  if x == 0.0 then -infinity
  else if isMinus x then noNumber
  else if endless ≤ bits then 1.0 / x
  else if 0x40000000 ≤ bits then wave1 true x
  else if bits < 0x3c900000 then -twoOverPi / x
  else x * lowSecond1.at (x * x) + twoOverPi * (first1 x * Float.log x - 1.0 / x)

/-! ## Recurrence -/

/-- The sum of the sine and the cosine, each with its sign, that a wave far out is.  The signs
repeat after four orders. -/
def farWave (n : Nat) (s c x : Float) : Float :=
  let w :=
    match n % 4 with
    | 0 => -c + s
    | 1 => -c - s
    | 2 => c - s
    | _ => c + s
  rootOfPi * w / Float.sqrt x

/-- The function so many orders above two ones that follow each other. -/
def upward (x : Float) (n : Nat) (a b : Float) : Float :=
  ((List.range n).foldl (fun (a, b) i => (b, b * (2.0 * Float.ofNat (i + 1) / x) - a)) (a, b)).2

/-- How many terms a continued fraction takes until its denominator is large. -/
def termsNeeded (h : Float) : Nat → (k : Nat) → (z q q' : Float) → Nat
  | 0, k, _, _, _ => k
  | n + 1, k, z, q, q' =>
    if q' < 1.0e9 then termsNeeded h n (k + 1) (z + h) q' ((z + h) * q' - q) else k

/-- The first kind of a high order, by recurrence from above.  The quotient of two functions is a
continued fraction.  What is found is scaled by a function that is known. -/
def downward (n : Nat) (x : Float) : Float :=
  let order := Float.ofNat n + 1.0
  let w := 2.0 * order / x
  let h := 2.0 / x
  let k := termsNeeded h 100000 1 (w + h) w (w * (w + h) - 1.0)
  let t := (List.range (k + 1)).reverse.foldl
    (fun t i => 1.0 / (2.0 * (Float.ofNat i + order) / x - t)) 0.0
  let scaled := !(order * Float.log w.abs < 7.09782712893383973096e2)
  let (a, b, t) := (List.range n).reverse.foldl (fun (a, b, t) i =>
    let b' := b * (2.0 * Float.ofNat (i + 1)) / x - a
    if scaled && Float.scaleB 1.0 500 < b' then (b / b', 1.0, t / b') else (b, b', t))
    (t, 1.0, t)
  let z := first0 x
  let w := first1 x
  if w.abs ≤ z.abs then t * z / b else t * w / a

/-- The first kind of an order of at least two, less one, at a positive number. -/
def firstOf (n : Nat) (x : Float) : Float :=
  let bits := upperBits x
  if Float.ofNat n < x then
    if 0x52d00000 ≤ bits then farWave n (Float.sin x) (Float.cos x) x
    else upward x n (first0 x) (first1 x)
  else if bits < 0x3e100000 then
    if 32 < n then 0.0
    else
      let y := x * 0.5
      let (a, b) :=
        (List.range n).foldl (fun (a, b) i => (a * Float.ofNat (i + 2), b * y)) (1.0, y)
      b / a
  else downward n x

end Bessel

open Bessel

/-- The Bessel function of the first kind. -/
def besselJ (n : Int) (x : Float) : Float :=
  let x' := if n < 0 then -x else x
  match n.natAbs with
  | 0 => first0 x
  | 1 => first1 x'
  | m + 2 =>
    if x.isNaN then x
    else
      let y := if x == 0.0 || x.isInf then 0.0 else firstOf (m + 1) x.abs
      if isMinus x' && m % 2 == 1 then -y else y

/-- The Bessel function of the second kind. -/
def besselY (n : Int) (x : Float) : Float :=
  let signed (y : Float) : Float := if n < 0 && n % 2 != 0 then -y else y
  if x.isNaN then x
  else if isMinus x && x != 0.0 then noNumber
  else if x.isInf then 0.0
  else
    match n.natAbs with
    | 0 => second0 x
    | 1 => signed (second1 x)
    | m + 2 =>
      if 0x52d00000 ≤ upperBits x then
        signed (farWave (m + 1) (-Float.cos x) (Float.sin x) x)
      else
        let (_, b) := (List.range (m + 1)).foldl (fun (a, b) i =>
          if b == -infinity then (a, b) else (b, 2.0 * Float.ofNat (i + 1) / x * b - a))
          (second0 x, second1 x)
        signed b

end Machine

end BodyCheck
