import FrontEnd.Bytes.Utf8
import FrontEnd.Number.Integer64
import FrontEnd.Unicode.Letter

/-!
The plain values of TOML documents: strings in four spellings, integers, floating-point numbers,
truth values and moments in time. Each reader takes the characters from its value on and gives the
characters behind it.
-/

namespace FrontEnd.Toml

inductive Value where
  | text (s : Bytes)
  | integer (n : Int)
  | boolean (b : Bool)
  | float (x : Float)
  /-- A date, a time of day or both, as written. -/
  | moment (s : List Char)
  /-- An array, whatever is in it. -/
  | array

def isBlank (c : Char) : Bool := c == ' ' || c == '\t'

def isLineEnd (c : Char) : Bool := c == '\n' || c == '\r'

/-- A character of a key that needs no quotes. -/
def isBare (c : Char) : Bool := c.isAlphanum || c == '_' || c == '-'

def bytesOf (cs : List Char) : Bytes := cs.flatMap Utf8.encode

def hexValue? (c : Char) : Option Nat :=
  if c.isDigit then some (c.toNat - 48)
  else if 'a' ≤ c ∧ c ≤ 'f' then some (c.toNat - 87)
  else if 'A' ≤ c ∧ c ≤ 'F' then some (c.toNat - 55)
  else none

/-- The character whose code point is written in `n` hexadecimal digits. -/
def codePoint? (n : Nat) (s : List Char) : Option (Char × List Char) :=
  let digits := s.take n
  match digits.mapM hexValue? with
  | none => none
  | some ds =>
    let point := ds.foldl (fun p d => p * 16 + d) 0
    if digits.length = n ∧ point.isValidChar then some (Char.ofNat point, s.drop n) else none

/-- What an escape behind its backslash stands for. -/
def escape? : List Char → Option (Char × List Char)
  | [] => none
  | c :: r => match c with
    | 'b' => some (Char.ofNat 8, r)
    | 't' => some ('\t', r)
    | 'n' => some ('\n', r)
    | 'f' => some (Char.ofNat 12, r)
    | 'r' => some ('\r', r)
    | '"' => some ('"', r)
    | '\\' => some ('\\', r)
    | 'u' => codePoint? 4 r
    | 'U' => codePoint? 8 r
    | _ => none

theorem codePoint?_length {n : Nat} {s r : List Char} {c : Char}
    (h : codePoint? n s = some (c, r)) : r.length ≤ s.length := by
  unfold codePoint? at h
  simp only at h
  split at h
  · cases h
  · split at h
    · simp only [Option.some.injEq, Prod.mk.injEq] at h
      rw [← h.2]
      simp
    · cases h

theorem escape?_length {s r : List Char} {c : Char} (h : escape? s = some (c, r)) :
    r.length < s.length := by
  cases s with
  | nil => simp [escape?] at h
  | cons d t =>
    simp only [escape?] at h
    split at h
    all_goals first
      | exact Nat.lt_succ_of_le (codePoint?_length h)
      | (simp only [Option.some.injEq, Prod.mk.injEq] at h; rw [← h.2]; simp)
      | cases h

/-- A string between double quotes, from behind the first; `acc` reversed before it. -/
def basic? (acc : List Char) (s : List Char) : Option (List Char × List Char) :=
  match s with
  | [] => none
  | '"' :: r => some (acc.reverse, r)
  | '\\' :: r => match h : escape? r with
    | none => none
    | some (c, rest) =>
      have := escape?_length h
      basic? (c :: acc) rest
  | c :: r => if isLineEnd c then none else basic? (c :: acc) r
termination_by s.length
decreasing_by all_goals simp only [List.length_cons]; omega

/-- A string between single quotes, from behind the first. -/
def literal? (s : List Char) : Option (List Char × List Char) :=
  let body := s.takeWhile fun c => c != '\'' && !isLineEnd c
  match s.drop body.length with
  | '\'' :: r => some (body, r)
  | _ => none

/-- A line feed at the front is not part of a string of several lines. -/
def dropLineFeed : List Char → List Char
  | '\n' :: r => r
  | s => s

/-- At a quote of a string of several lines: how many quotes of the run that starts here are in the
string when it ends with the run. Three quotes end it. -/
inductive Run where
  | within
  | last (quotes : Nat)
  | tooLong

/-- The run that starts with a quote before `r`, when at most `most` quotes may stand before the
three that end the string. -/
def runOf (most : Nat) (quote : Char) (r : List Char) : Run :=
  let n := (r.takeWhile (· == quote)).length + 1
  if n < 3 then .within else if n ≤ most + 3 then .last (n - 3) else .tooLong

/-- A string between three double quotes, from behind the first three. A backslash at the end of a
line takes with it all blanks and line ends that follow. Two quotes may stand before the last three,
and behind an escaped backslash three. -/
def basicLines? (backslash : Bool) (acc : List Char) (s : List Char) :
    Option (List Char × List Char) :=
  match s with
  | [] => none
  | '"' :: r => match runOf (if backslash then 3 else 2) '"' r with
    | .within => basicLines? false ('"' :: acc) r
    | .last n => some ((List.replicate n '"' ++ acc).reverse, r.drop (n + 2))
    | .tooLong => none
  | '\\' :: r =>
    let space := r.takeWhile fun c => isBlank c || isLineEnd c
    if space.contains '\n' then basicLines? false acc (r.drop space.length)
    else match h : escape? r with
      | none => none
      | some (c, rest) =>
        have := escape?_length h
        basicLines? (r.head? == some '\\') (c :: acc) rest
  | c :: r => basicLines? false (c :: acc) r
termination_by s.length
decreasing_by all_goals simp only [List.length_cons, List.length_drop]; omega

/-- A string between three single quotes, from behind the first three. -/
def literalLines? (acc : List Char) : List Char → Option (List Char × List Char)
  | [] => none
  | c :: r =>
    if c = '\'' then match runOf 2 '\'' r with
      | .within => literalLines? (c :: acc) r
      | .last n => some ((List.replicate n '\'' ++ acc).reverse, r.drop (n + 2))
      | .tooLong => none
    else literalLines? (c :: acc) r

/-- A string of one line, from its first quote on. -/
def line? : List Char → Option (List Char × List Char)
  | '"' :: r => basic? [] r
  | '\'' :: r => literal? r
  | _ => none

/-- A string in any spelling. -/
def string? : List Char → Option (List Char × List Char)
  | '"' :: '"' :: '"' :: r => basicLines? false [] (dropLineFeed r)
  | '\'' :: '\'' :: '\'' :: r => literalLines? [] (dropLineFeed r)
  | s => line? s

/-- Every underscore of a number stands behind a digit, and none at the end. -/
def underscoresParted (s : List Char) : Bool :=
  let (ok, digit) := s.foldl
    (fun (ok, digit) c => (ok && (c != '_' || digit), (hexValue? c).isSome)) (true, false)
  ok && digit

/-- A number does not start with a zero that could be left out. -/
def leadingZero : List Char → Bool
  | '0' :: c :: _ => !(c == 'b' || c == 'o' || c == 'x')
  | '+' :: '0' :: _ :: _ => true
  | '-' :: '0' :: _ :: _ => true
  | _ => false

def integerOf? (s : List Char) : Option Value :=
  if !underscoresParted s || leadingZero s then none
  else match Integer64.read (bytesOf s) with
    | .ok n => some (.integer n)
    | .error _ => none

/-- The parts between points and exponent signs that are not empty. -/
def floatParts (s : List Char) : List (List Char) :=
  (s.splitBy fun a b => !(isMark a || isMark b)).filter fun p => !p.any isMark
where
  isMark (c : Char) : Bool := c == '.' || c == 'e' || c == 'E'

/-- Every point is followed by a digit. -/
def pointsFollowed : List Char → Bool
  | [] => true
  | '.' :: r => (r.head?.any Char.isDigit) && pointsFollowed r
  | _ :: r => pointsFollowed r

def floatOf? (s : List Char) : Option Value :=
  let parts := floatParts s
  if !parts.all underscoresParted || (parts.head?.any leadingZero) || !pointsFollowed s then none
  else (FloatText.read (bytesOf (s.filter (· != '_')))).map .float

/-- The number at the front of at least `least` and at most two digits. -/
def twoDigits? (least : Nat) (s : List Char) : Option (Nat × List Char) :=
  let ds := (s.take 2).takeWhile Char.isDigit
  if least ≤ ds.length then some (ds.foldl (fun n c => n * 10 + (c.toNat - 48)) 0, s.drop ds.length)
  else none

/-- What follows a given character. -/
def behind? (c : Char) : List Char → Option (List Char)
  | [] => none
  | d :: r => if d = c then some r else none

def daysIn (year month : Nat) : Nat :=
  if month = 2 then if year % 4 = 0 ∧ (year % 100 ≠ 0 ∨ year % 400 = 0) then 29 else 28
  else if month = 4 ∨ month = 6 ∨ month = 9 ∨ month = 11 then 30 else 31

/-- Passes a date. -/
def date? (s : List Char) : Option (List Char) := do
  let ys := s.take 4
  if ys.length ≠ 4 ∨ !ys.all Char.isDigit then none
  let year := ys.foldl (fun n c => n * 10 + (c.toNat - 48)) 0
  let (month, r) ← twoDigits? 2 (← behind? '-' (s.drop 4))
  let (day, r) ← twoDigits? 2 (← behind? '-' r)
  if 1 ≤ month ∧ month ≤ 12 ∧ 1 ≤ day ∧ day ≤ daysIn year month then some r else none

/-- Passes a time of day; seconds may have a fraction. -/
def time? (s : List Char) : Option (List Char) := do
  let (hour, r) ← twoDigits? 1 s
  let (minute, r) ← twoDigits? 2 (← behind? ':' r)
  let (second, r) ← twoDigits? 2 (← behind? ':' r)
  if 24 ≤ hour ∨ 60 ≤ minute ∨ 60 ≤ second then none
  match r with
  | '.' :: c :: t => some (if c.isDigit then t.dropWhile Char.isDigit else r)
  | r => some r

/-- Passes an offset from universal time. -/
def zone? : List Char → Option (List Char)
  | 'Z' :: r => some r
  | sign :: r => do
    if sign ≠ '+' ∧ sign ≠ '-' then none
    let (hours, r) ← twoDigits? 2 r
    let (minutes, r) ← twoDigits? 2 (← behind? ':' r)
    if 24 < hours ∨ 60 < minutes then none else some r
  | [] => none

def isMoment (s : List Char) : Bool :=
  let s := s.map fun c => if c = 'z' then 'Z' else if c = 't' ∨ c = ' ' then 'T' else c
  let both := date? s >>= behind? 'T' >>= time?
  both == some [] || (both >>= zone?) == some [] || date? s == some [] || time? s == some []

def momentOf? (s : List Char) : Option Value :=
  let s := (s.reverse.dropWhile isBlank).reverse
  if isMoment s then some (.moment s) else none

/-- A number without a base sign that starts with the characters `lead`. -/
def decimal? (lead s : List Char) : Option (Value × List Char) :=
  let body := s.takeWhile fun c => c.isDigit || c == '_'
  let rest := s.drop body.length
  if rest.head?.any fun c => c == '.' || c == 'e' || c == 'E' then
    let tail := rest.takeWhile fun c => c.isDigit || "_.-+eE".toList.contains c
    (floatOf? (lead ++ body ++ tail)).map (·, rest.drop tail.length)
  else (integerOf? (lead ++ body)).map (·, rest)

/-- A number with a base sign, whose digits have values below `base`. -/
def based? (base : Nat) (mark : Char) (s : List Char) : Option (Value × List Char) :=
  let isDigit (c : Char) : Bool := (hexValue? c).any (· < base)
  if s.head?.any isDigit then
    let body := s.takeWhile fun c => isDigit c || c == '_'
    (integerOf? ('0' :: mark :: body)).map (·, s.drop body.length)
  else none

/-- An infinity or no number at all. -/
def special? (sign s : List Char) : Option (Value × List Char) :=
  let word := s.take 3
  if word = ['i', 'n', 'f'] then (FloatText.read (bytesOf (sign ++ word))).map (.float ·, s.drop 3)
  else if word = ['n', 'a', 'n'] then (FloatText.read (bytesOf word)).map (.float ·, s.drop 3)
  else none

/-- What starts with a sign is a decimal number. -/
def signed? (sign : Char) (s : List Char) : Option (Value × List Char) :=
  match s with
  | '0' :: 'b' :: _ => none
  | '0' :: 'o' :: _ => none
  | '0' :: 'x' :: _ => none
  | c :: _ => if c.isDigit then decimal? [sign] s else special? [sign] s
  | [] => none

/-- What starts with a digit: a number or a moment. -/
def unsigned? (s : List Char) : Option (Value × List Char) :=
  match s with
  | '0' :: 'b' :: r => based? 2 'b' r
  | '0' :: 'o' :: r => based? 8 'o' r
  | '0' :: 'x' :: r => based? 16 'x' r
  | s =>
    let digits := s.takeWhile Char.isDigit
    let next := (s.drop digits.length).head?
    if digits ≠ ['0'] ∧ (next = some '-' ∨ next = some ':') then
      let all := s.takeWhile fun c => c.isDigit || "-:Tt .Zz+".toList.contains c
      (momentOf? all).map (·, s.drop all.length)
    else decimal? [] s

/-- A word: a truth value. -/
def word? (s : List Char) : Option (Value × List Char) :=
  let word := s.takeWhile Unicode.isLetter
  let rest := s.drop word.length
  if word = ['t', 'r', 'u', 'e'] then some (.boolean true, rest)
  else if word = ['f', 'a', 'l', 's', 'e'] then some (.boolean false, rest)
  else none

def scalar? (s : List Char) : Option (Value × List Char) :=
  match s with
  | [] => none
  | c :: r =>
    if c = '"' ∨ c = '\'' then (string? s).map fun (t, rest) => (.text (bytesOf t), rest)
    else if c = '+' ∨ c = '-' then signed? c r
    else if c.isDigit then unsigned? s
    else match special? [] s with
      | some v => some v
      | none => word? s

end FrontEnd.Toml
