import DiscreetLog.Foreign.Digits
import DiscreetLog.Value.Display
import DiscreetLog.Value.Entries

/-!
# Message templates

Other libraries log a template together with its arguments. A directive begins with a percent
sign and ends with a letter that says how its argument is written; between them it may name the
argument, and ask for a width, a sign, or a number of places. Two percent signs
in a row are one in the text. The arguments come one by one, or by name where they are given as a
mapping. A template and arguments that do not fit each other are a fault of the caller, and no
text comes of them.
-/

namespace DiscreetLog.Template

/-- **What the name of an argument leads to.** -/
inductive Names where
  /-- The arguments have no names. -/
  | unnamed
  /-- Each name has an entry. -/
  | entries (es : List (Value × Value))
  /-- The arguments go by numbers, and a name is refused. -/
  | refused (fault : TemplateFault)

/-- **The arguments of a template**: those that come one after the other, and those that go by
names. -/
structure Arguments where
  pending : List Value
  names : Names

/-- **The arguments that a value is**: those of a tuple come one after the other. Any other value
is one argument, and what has items under keys or numbers can be asked for them. -/
def Arguments.ofValue (σ : Objects) (v : Value) : Arguments :=
  match v, σ.container? v with
  | _, some (_, .tuple _ items) | _, some (_, .object _ _ (.items .tuple items)) =>
    ⟨items, .unnamed⟩
  | _, some (_, .named _ fields) => ⟨fields.map (·.2), .unnamed⟩
  | v, some (_, .mapping _ entries) => ⟨[v], .entries entries⟩
  | v, some (_, .list ..) | v, some (_, .object _ _ (.items .list _)) =>
    ⟨[v], .refused (.numbered false)⟩
  | v, some (_, .object _ _ (.bytes _)) => ⟨[v], .refused (.numbered true)⟩
  | .atom l (.bytes bs), _ => ⟨[.atom l (.bytes bs)], .refused (.numbered true)⟩
  | v, _ => ⟨[v], .unnamed⟩

/-- **What a directive asks for** besides its letter. -/
structure Form where
  left : Bool
  plus : Bool
  blank : Bool
  alternate : Bool
  zeros : Bool
  width : Nat
  precision : Option Nat

/-- A directive that asks for nothing. -/
def Form.none : Form := ⟨false, false, false, false, false, 0, .none⟩

/-- A step of reading a template. -/
abbrev Step := Except TemplateFault

/-- The next argument without a name, and what is left. -/
def Arguments.next : Arguments → Step (Value × Arguments)
  | ⟨v :: rest, names⟩ => .ok (v, ⟨rest, names⟩)
  | ⟨[], _⟩ => .error .tooFew

/-- The argument of a name; it is the only one that a directive then finds. -/
def Arguments.select (name : String) : Arguments → Step Arguments
  | ⟨_, .unnamed⟩ => .error .unnamed
  | ⟨_, .refused fault⟩ => .error fault
  | ⟨_, .entries es⟩ =>
    match es.find? fun e => e.1.sameKey (.text name) with
    | some e => .ok ⟨[e.2], .entries es⟩
    | Option.none => .error (.absent name)

/-- Every argument has been used, or can be left out. -/
def Arguments.isSpent (args : Arguments) : Bool :=
  match args.names with
  | .unnamed => args.pending.isEmpty
  | _ => true

/-- What a width in the template stays below: it has a place in 64 bits. -/
def widthBound : Nat := 9223372036854775808

/-- What a precision in the template stays below: it has a place in 32 bits. -/
def precisionBound : Nat := 2147483648

/-- What a number of digits stays below that a whole number can be given. -/
def digitsBound : Nat := 2147483645

/-- What the length of a text stays below. -/
def lengthBound : Nat := 1099511627776

/-- The flags at the front, and what follows them. -/
def flags : Form → List Char → Form × List Char
  | form, '-' :: s => flags { form with left := true } s
  | form, '+' :: s => flags { form with plus := true } s
  | form, ' ' :: s => flags { form with blank := true } s
  | form, '#' :: s => flags { form with alternate := true } s
  | form, '0' :: s => flags { form with zeros := true } s
  | form, s => (form, s)

/-- The number that the digits at the front denote, and what follows them. -/
def leadingNumber (s : List Char) : Nat × List Char :=
  ((s.takeWhile Char.isDigit).foldl (fun n c => 10 * n + (c.toNat - 48)) 0,
    s.dropWhile Char.isDigit)

/-- A width or precision: a number in the template, or the next argument where a star stands for
it. -/
def countOf (precision : Bool) (args : Arguments) :
    List Char → Step (Int × Arguments × List Char)
  | '*' :: s => do
    let (v, args) ← args.next
    match v.whole? with
    | some n =>
      if n < -bound ∨ bound ≤ n then throw (.starTooLarge precision) else return (n, args, s)
    | Option.none => throw .starNotNumber
  | s =>
    let (n, s) := leadingNumber s
    if bound ≤ n then .error (.countTooBig precision) else .ok (n, args, s)
where
  /-- What it stays below. -/
  bound : Nat := if precision then precisionBound else widthBound

/-- The name in parentheses, which may hold parentheses itself, and what follows it. -/
def nameOf : Nat → List Char → Option (List Char × List Char)
  | _, [] => Option.none
  | depth, ')' :: s =>
    match depth with
    | 0 => some ([], s)
    | depth + 1 => (nameOf depth s).map fun r => (')' :: r.1, r.2)
  | depth, c :: s =>
    (nameOf (if c = '(' then depth + 1 else depth) s).map fun r => (c :: r.1, r.2)

/-! ## Arguments in writing -/

/-- Text filled up to the width. -/
def fill (form : Form) (s : List Char) : List Char :=
  let gap := List.replicate (form.width - s.length) ' '
  if form.left then s ++ gap else gap ++ s

/-- A number filled up to the width, with zeros between its sign and its digits if they are
asked for. -/
def fillNumber (form : Form) (negative : Bool) (lead digits : List Char) : List Char :=
  let sign := if negative then ['-'] else if form.plus then ['+']
    else if form.blank then [' '] else []
  if form.zeros && !form.left then
    sign ++ lead
      ++ List.replicate (form.width - (sign.length + lead.length + digits.length)) '0' ++ digits
  else fill form (sign ++ lead ++ digits)

/-- A whole number in a base, with at least as many digits as the precision. -/
def wholeNumber (form : Form) (base : Nat) (lead : List Char) (n : Int) : Step (List Char) :=
  let least := form.precision.getD 0
  if digitsBound ≤ least then .error .tooManyDigits
  else
    let digits := Nat.toDigits base n.natAbs
    let digits := List.replicate (least - digits.length) '0' ++ digits
    .ok (fillNumber form (n < 0) (if form.alternate then lead else []) digits)

/-- The whole number that a value counts as in decimal digits: of a double, the part in front of
the point. -/
def decimalOf (σ : Objects) (letter : Char) (v : Value) : Step Int :=
  match v with
  | .atom _ (.float .nan) => .error (.notFinite false)
  | .atom _ (.float (.infinite _)) => .error (.notFinite true)
  | .atom _ (.float x) =>
    match x.toFraction? with
    | some (num, den) => .ok (Int.tdiv num den)
    | Option.none => .error (.notReal letter "float")
  | v => match v.whole? with
    | some n => .ok n
    | Option.none => .error (.notReal letter (v.className σ))

/-- The double that a value counts as. Of whole numbers that is the nearest one, unless they lie
beyond all doubles. -/
def doubleOf (σ : Objects) (v : Value) : Step Binary64 :=
  match v with
  | .atom _ (.float x) => .ok x
  | v => match v.whole? with
    | some n =>
      match Binary64.ofFraction n 1 with
      | .infinite _ => .error .beyondDoubles
      | x => .ok x
    | Option.none => .error (.notFractional (v.className σ))

/-- A double in the way of a letter. -/
def fractional (form : Form) (letter : Char) (x : Binary64) : List Char :=
  let upper := letter.isUpper
  let named (s : String) : List Char := if upper then s.toList.map Char.toUpper else s.toList
  match x with
  | .nan => fillNumber form false [] (named "nan")
  | .infinite negative => fillNumber form negative [] (named "inf")
  | .finite negative m e _ =>
    let (num, den) := Binary64.fraction m e
    let places := form.precision.getD 6
    let mark := if upper then 'E' else 'e'
    let digits := match letter.toLower with
      | 'f' => Digits.fixed form.alternate places num den
      | 'e' => Digits.scientific form.alternate mark places num den
      | _ => Digits.general form.alternate mark places num den
    fillNumber form negative [] digits

/-- A text with everything but ASCII escaped. -/
def asciiOnly (s : String) : List Char :=
  s.toList.flatMap fun c => if c.toNat < 0x80 then [c] else Text.escapeNumber c.toNat

/-- A text cut at the precision and filled up to the width. -/
def cut (form : Form) (s : List Char) : List Char :=
  fill form (match form.precision with
    | some n => s.take n
    | Option.none => s)

/-- The character that a value is or has the number of. -/
def character (form : Form) (v : Value) : Step (List Char) :=
  match v with
  | .atom _ (.text s) =>
    match s.toList with
    | [c] => .ok (fill form [c])
    | _ => .error .notCharacter
  | v => match v.whole? with
    | some n =>
      if 0 ≤ n ∧ n < 0x110000 then .ok (fill form [Char.ofNat n.toNat])
      else .error .beyondCharacters
    | Option.none => .error .notCharacter

/-- A failure to show a value, or a template that does not fit. -/
def orFault {α : Type} (x : Step α) : Except Failure α :=
  match x with
  | .ok a => .ok a
  | .error fault => .error (.template fault)

/-- **An argument written in the way of a letter**, which stands at the given position. -/
def write (σ : Objects) (form : Form) (letter : Char) (position : Nat) (v : Value) :
    Except Failure (List Char) :=
  match letter with
  | 's' => do return cut form (← v.display σ).toList
  | 'r' => do return cut form (← v.inspect σ).toList
  | 'a' => do return cut form (asciiOnly (← v.inspect σ))
  | 'd' | 'i' | 'u' => orFault do wholeNumber form 10 [] (← decimalOf σ letter v)
  | 'o' | 'x' | 'X' =>
    match v.whole? with
    | Option.none => .error (.template (.notWhole letter (v.className σ)))
    | some n => orFault do
      if letter = 'o' then wholeNumber form 8 ['0', 'o'] n
      else if letter = 'x' then wholeNumber form 16 ['0', 'x'] n
      else return (← wholeNumber form 16 ['0', 'x'] n).map Char.toUpper
  | 'c' => orFault (character form v)
  | 'e' | 'E' | 'f' | 'F' | 'g' | 'G' => do
    return fractional form letter (← orFault (doubleOf σ v))
  | _ => .error (.template (.unsupported letter position))

/-- An argument written, if a text can be as long as the width. -/
def writeWithin (σ : Objects) (form : Form) (letter : Char) (position : Nat) (v : Value) :
    Except Failure (List Char) :=
  if form.width < lengthBound then write σ form letter position v
  else do
    let _ ← write σ { form with width := 0 } letter position v
    throw (.template .tooLong)

/-! ## Reading a template -/

/-- The argument that a directive names at its front, if it names one. -/
def named (args : Arguments) : List Char → Step (Arguments × List Char)
  | '(' :: s =>
    match args.names, nameOf 0 s with
    | .unnamed, _ => .error .unnamed
    | _, Option.none => .error .incompleteName
    | _, some (name, s) => do return (← args.select (String.ofList name), s)
  | s => .ok (args, s)

/-- A width. A negative one asks for the left side; the least number of 64 bits has no size there,
and asks for no width. -/
def Form.withWidth (form : Form) (n : Int) : Form :=
  { form with
    left := form.left || n < 0
    width := if n = -widthBound then 0 else n.natAbs }

/-- What a directive asks for, behind the name of its argument. -/
def formOf (args : Arguments) (s : List Char) : Step (Form × Arguments × List Char) := do
  let (form, s) := flags .none s
  let (width, args, s) ← countOf false args s
  let form := form.withWidth width
  let (form, args, s) ← match s with
    | '.' :: s => do
      let (precision, args, s) ← countOf true args s
      pure ({ form with precision := some precision.toNat }, args, s)
    | s => pure (form, args, s)
  return (form, args, match s with
    | 'h' :: rest | 'l' :: rest | 'L' :: rest => rest
    | s => s)

/-- **A directive**, given what follows its percent sign: the text that it makes, what is left
of the arguments, and what follows it. -/
def directive (σ : Objects) (length : Nat) (args : Arguments) (s : List Char) :
    Except Failure (List Char × Arguments × List Char) := do
  let (args, s) ← orFault (named args s)
  let (form, args, s) ← orFault (formOf args s)
  match s with
  | [] => throw (.template .incomplete)
  | letter :: s =>
    let (v, args) ← orFault args.next
    return (← writeWithin σ form letter (length - s.length - 1) v, args, s)

/-- **The text of a template**, given how much may still be read. A directive takes at least one
character, so the length of the template is enough. -/
def expand (σ : Objects) (length : Nat) :
    Nat → Arguments → List Char → Except Failure (List Char)
  | 0, _, _ => .ok []
  | _ + 1, args, [] => if args.isSpent then .ok [] else .error (.template .tooMany)
  | left + 1, args, '%' :: '%' :: s => do return '%' :: (← expand σ length left args s)
  | left + 1, args, '%' :: s => do
    let (written, args, rest) ← directive σ length args s
    return written ++ (← expand σ length left args rest)
  | left + 1, args, c :: s => do return c :: (← expand σ length left args s)

/-- **A message made of a template and its arguments.** -/
def format (σ : Objects) (template : String) (args : Arguments) : Except Failure String := do
  let s := template.toList
  return String.ofList (← expand σ s.length (s.length + 1) args s)

end DiscreetLog.Template
