import Mathlib.Data.List.Sort
import Mathlib.Data.List.TakeWhile
import Mathlib.Data.List.Lex

/-! JSON as the `json` module of Python has it: what `dumps` makes of a value with sorted keys, without spaces
and without escapes for what is not ASCII, and what `loads` reads. Strings are lists of code points, with
surrogates among them. Floats are a parameter. -/

namespace VkRemote.Lib

abbrev Str := List ℕ

def lit (s : String) : Str := s.toList.map Char.toNat

/-- The character of a code point; a surrogate has none. -/
def codeChar (c : ℕ) : Option Char := if h : c.isValidChar then some (Char.ofNatAux c h) else none

/-- `str.encode`. -/
def utf8Encode (s : Str) : Option (List UInt8) :=
  (s.mapM codeChar).map fun cs => cs.flatMap String.utf8EncodeChar

/-- `bytes.decode`. -/
def utf8Decode (bytes : List UInt8) : Option Str :=
  bytes.toByteArray.utf8Decode?.map fun cs => cs.toList.map Char.toNat

theorem toNat_of_codeChar {c : ℕ} {ch : Char} (h : codeChar c = some ch) : ch.toNat = c := by
  by_cases hc : c.isValidChar
  · rw [codeChar, dif_pos hc] at h
    rw [← Option.some.inj h]
    rfl
  · rw [codeChar, dif_neg hc] at h
    cases h

theorem map_toNat_of_mapM {s : Str} {cs : List Char} (h : s.mapM codeChar = some cs) : cs.map Char.toNat = s := by
  induction s generalizing cs with
  | nil =>
    obtain rfl : cs = [] := by simpa using h.symm
    rfl
  | cons c s ih =>
    simp only [List.mapM_cons, Option.bind_eq_bind, Option.bind_eq_some_iff, Option.pure_def,
      Option.some.injEq] at h
    obtain ⟨ch, hch, rest, hrest, rfl⟩ := h
    rw [List.map_cons, toNat_of_codeChar hch, ih hrest]

/-- What was encoded is decoded. -/
theorem utf8Decode_of_utf8Encode {s : Str} {bytes : List UInt8} (h : utf8Encode s = some bytes) :
    utf8Decode bytes = some s := by
  obtain ⟨cs, hcs, rfl⟩ := Option.map_eq_some_iff.1 h
  have hdecode : (cs.flatMap String.utf8EncodeChar).toByteArray.utf8Decode? = some cs.toArray :=
    List.utf8Decode?_utf8Encode
  rw [utf8Decode, hdecode, Option.map_some, map_toNat_of_mapM hcs]

/-- Floats, with `float.__repr__` and `float`. -/
class PyFloat (F : Type) where
  isFinite : F → Bool
  repr : F → Str
  ofText : Str → F

inductive Json (F : Type)
  | null
  | bool (b : Bool)
  | int (n : ℤ)
  | float (x : F)
  | string (s : Str)
  | list (xs : List (Json F))
  | dict (items : List (Str × Json F))

/-- `JSONDecodeError`, or a `ValueError` that is none. -/
inductive JsonError
  | decode
  | value
  deriving DecidableEq

/-- `sys.get_int_max_str_digits()`. -/
def maxStrDigits : ℕ := 4300

def isDigit (c : ℕ) : Bool := '0'.toNat ≤ c && c ≤ '9'.toNat

def decimal (n : ℕ) : Str := (Nat.toDigits 10 n).map Char.toNat

def ofDecimal (s : Str) : ℕ := s.foldl (fun n c => 10 * n + (c - '0'.toNat)) 0

def hexDigit (n : ℕ) : ℕ := if n < 10 then '0'.toNat + n else 'a'.toNat + (n - 10)

def hexValue (c : ℕ) : Option ℕ :=
  if isDigit c then some (c - '0'.toNat)
  else if 'a'.toNat ≤ c ∧ c ≤ 'f'.toNat then some (c - 'a'.toNat + 10)
  else if 'A'.toNat ≤ c ∧ c ≤ 'F'.toNat then some (c - 'A'.toNat + 10)
  else none

namespace Json

variable {F : Type}

/-- The characters that have an escape of their own, with its letter. -/
def escapes : List (ℕ × ℕ) :=
  [('"'.toNat, '"'.toNat), ('\\'.toNat, '\\'.toNat), (8, 'b'.toNat), (12, 'f'.toNat), (10, 'n'.toNat),
    (13, 'r'.toNat), (9, 't'.toNat)]

def escape (c : ℕ) : Str :=
  match escapes.lookup c with
  | some letter => ['\\'.toNat, letter]
  | none =>
    if c < 0x20 then lit "\\u00" ++ [hexDigit (c / 16), hexDigit (c % 16)] else [c]

def quote (s : Str) : Str := '"'.toNat :: (s.flatMap escape ++ ['"'.toNat])

def intText (n : ℤ) : Str := (if n < 0 then ['-'.toNat] else []) ++ decimal n.natAbs

mutual

/-- The text of a value, the items of a dict in their order. -/
def text [PyFloat F] : Json F → Str
  | null => lit "null"
  | bool b => if b then lit "true" else lit "false"
  | int n => intText n
  | float x => PyFloat.repr x
  | string s => quote s
  | list [] => lit "[]"
  | list (x :: xs) => '['.toNat :: (x.text ++ textTail xs)
  | dict [] => lit "\x7b\x7d"
  | dict ((k, v) :: items) => '\x7b'.toNat :: (quote k ++ ':'.toNat :: (v.text ++ textItems items))

/-- The elements after the first. -/
def textTail [PyFloat F] : List (Json F) → Str
  | [] => [']'.toNat]
  | x :: xs => ','.toNat :: (x.text ++ textTail xs)

/-- The items after the first. -/
def textItems [PyFloat F] : List (Str × Json F) → Str
  | [] => ['\x7d'.toNat]
  | (k, v) :: items => ','.toNat :: (quote k ++ ':'.toNat :: (v.text ++ textItems items))

end

mutual

/-- Every dict with its items in the order of their keys. -/
def sorted : Json F → Json F
  | list xs => list (sortedAll xs)
  | dict items => dict ((sortedItems items).insertionSort fun a b => a.1 ≤ b.1)
  | v => v

def sortedAll : List (Json F) → List (Json F)
  | [] => []
  | x :: xs => x.sorted :: sortedAll xs

def sortedItems : List (Str × Json F) → List (Str × Json F)
  | [] => []
  | (k, v) :: items => (k, v.sorted) :: sortedItems items

end

mutual

/-- No float is infinite or no number, no integer is longer than Python prints it. -/
def printable [PyFloat F] : Json F → Bool
  | int n => (decimal n.natAbs).length ≤ maxStrDigits
  | float x => PyFloat.isFinite x
  | list xs => printableAll xs
  | dict items => printableItems items
  | _ => true

def printableAll [PyFloat F] : List (Json F) → Bool
  | [] => true
  | x :: xs => x.printable && printableAll xs

def printableItems [PyFloat F] : List (Str × Json F) → Bool
  | [] => true
  | (_, v) :: items => v.printable && printableItems items

end

/-- `dumps` with `sort_keys`, `separators=(",", ":")`, and neither `ensure_ascii` nor `allow_nan`. -/
def dumps [PyFloat F] (v : Json F) : Except JsonError Str :=
  if v.printable then .ok v.sorted.text else .error .value

def isSpace (c : ℕ) : Bool := c ∈ [' '.toNat, 9, 10, 13]

def skipSpace (s : Str) : Str := s.dropWhile isSpace

/-- Four hexadecimal digits. -/
def scanHex4 : Str → Option (ℕ × Str)
  | a :: b :: c :: d :: s => do
    return (((← hexValue a) * 16 + (← hexValue b)) * 256 + (← hexValue c) * 16 + (← hexValue d), s)
  | _ => none

/-- After `\u`: two escapes that are the halves of a surrogate pair make one character. -/
def scanUnicode (s : Str) : Option (ℕ × Str) := do
  let (high, s) ← scanHex4 s
  if 0xd800 ≤ high ∧ high < 0xdc00 ∧ s.take 2 = lit "\\u" then
    let (low, t) ← scanHex4 (s.drop 2)
    if 0xdc00 ≤ low ∧ low < 0xe000 then some (0x10000 + (high - 0xd800) * 0x400 + (low - 0xdc00), t)
    else some (high, s)
  else some (high, s)

/-- After a backslash. -/
def scanEscape : Str → Option (ℕ × Str)
  | [] => none
  | c :: s =>
    if c = 'u'.toNat then scanUnicode s
    else if c = '/'.toNat then some (c, s)
    else (escapes.find? (·.2 = c)).map fun e => (e.1, s)

/-- After the opening quote. -/
def scanString : ℕ → Str → Except JsonError (Str × Str)
  | n + 1, c :: s =>
    if c = '"'.toNat then .ok ([], s)
    else if c = '\\'.toNat then
      match scanEscape s with
      | none => .error .decode
      | some (c, s) => (scanString n s).map fun p => (c :: p.1, p.2)
    else if c < 0x20 then .error .decode
    else (scanString n s).map fun p => (c :: p.1, p.2)
  | _, _ => .error .decode

/-- A number as it is cut: sign and digits, fraction, exponent, and what comes after. -/
structure NumberText where
  integer : Str
  fraction : Str
  exponent : Str
  rest : Str
  deriving DecidableEq

def scanInteger : Str → Option (Str × Str)
  | [] => none
  | c :: s =>
    if c = '0'.toNat then some ([c], s)
    else if isDigit c then some (c :: s.takeWhile isDigit, s.dropWhile isDigit)
    else none

/-- The sign if it is one of those. -/
def scanSign (signs : List ℕ) : Str → Str × Str
  | [] => ([], [])
  | c :: s => if c ∈ signs then ([c], s) else ([], c :: s)

def scanFraction : Str → Str × Str
  | c :: d :: s =>
    if c = '.'.toNat ∧ isDigit d then (c :: d :: s.takeWhile isDigit, s.dropWhile isDigit)
    else ([], c :: d :: s)
  | s => ([], s)

def scanExponent : Str → Str × Str
  | [] => ([], [])
  | c :: s =>
    let sign := scanSign ['-'.toNat, '+'.toNat] s
    if c ∈ ['e'.toNat, 'E'.toNat] ∧ sign.2.takeWhile isDigit ≠ [] then
      (c :: (sign.1 ++ sign.2.takeWhile isDigit), sign.2.dropWhile isDigit)
    else ([], c :: s)

def scanNumber (s : Str) : Option NumberText :=
  (scanInteger (scanSign ['-'.toNat] s).2).map fun digits =>
    { integer := (scanSign ['-'.toNat] s).1 ++ digits.1
      fraction := (scanFraction digits.2).1
      exponent := (scanExponent (scanFraction digits.2).2).1
      rest := (scanExponent (scanFraction digits.2).2).2 }

def ofIntText (s : Str) : ℤ :=
  let sign := scanSign ['-'.toNat] s
  if sign.1 = [] then ofDecimal sign.2 else -ofDecimal sign.2

/-- A number without fraction and exponent is an integer. -/
def numberValue [PyFloat F] (t : NumberText) : Except JsonError (Json F) :=
  if t.fraction = [] ∧ t.exponent = [] then
    if maxStrDigits < (scanSign ['-'.toNat] t.integer).2.length then .error .value
    else .ok (int (ofIntText t.integer))
  else .ok (float (PyFloat.ofText (t.integer ++ t.fraction ++ t.exponent)))

/-- The constants, which do not depend on what comes after them. -/
def constants [PyFloat F] : List (Str × Json F) :=
  [(lit "null", null), (lit "true", bool true), (lit "false", bool false)] ++
    [lit "NaN", lit "Infinity", lit "-Infinity"].map fun s => (s, float (PyFloat.ofText s))

/-- What is not a string, a list or a dict. -/
def scanAtom [PyFloat F] (s : Str) : Except JsonError (Json F × Str) :=
  match constants.find? (fun e => e.1.isPrefixOf s) with
  | some e => .ok (e.2, s.drop e.1.length)
  | none =>
    match scanNumber s with
    | none => .error .decode
    | some t => (numberValue t).map fun v => (v, t.rest)

/-- `d[k] = v`. -/
def setItem (k : Str) (v : Json F) : List (Str × Json F) → List (Str × Json F)
  | [] => [(k, v)]
  | (k', v') :: items => if k' = k then (k', v) :: items else (k', v') :: setItem k v items

mutual

/-- `scan_once`; the fuel is for the nesting and for the elements. -/
def scanOnce [PyFloat F] : ℕ → Str → Except JsonError (Json F × Str)
  | n + 1, c :: s =>
    if c = '"'.toNat then (scanString s.length s).map fun p => (string p.1, p.2)
    else if c = '['.toNat then
      match skipSpace s with
      | [] => .error .decode
      | d :: t =>
        if d = ']'.toNat then .ok (list [], t) else (scanElements n (d :: t)).map fun p => (list p.1, p.2)
    else if c = '\x7b'.toNat then
      match skipSpace s with
      | [] => .error .decode
      | d :: t =>
        if d = '\x7d'.toNat then .ok (dict [], t)
        else if d = '"'.toNat then (scanItems n [] t).map fun p => (dict p.1, p.2)
        else .error .decode
    else scanAtom (c :: s)
  | _, _ => .error .decode

/-- The elements of a list, from one of them on. -/
def scanElements [PyFloat F] : ℕ → Str → Except JsonError (List (Json F) × Str)
  | 0, _ => .error .decode
  | n + 1, s =>
    (scanOnce n s).bind fun p =>
      match skipSpace p.2 with
      | [] => .error .decode
      | c :: t =>
        if c = ']'.toNat then .ok ([p.1], t)
        else if c = ','.toNat then (scanElements n (skipSpace t)).map fun q => (p.1 :: q.1, q.2)
        else .error .decode

/-- The items of a dict, from the quote of a key on, with those before. -/
def scanItems [PyFloat F] : ℕ → List (Str × Json F) → Str → Except JsonError (List (Str × Json F) × Str)
  | 0, _, _ => .error .decode
  | n + 1, items, s =>
    (scanString s.length s).bind fun k =>
      match skipSpace k.2 with
      | [] => .error .decode
      | c :: t =>
        if c = ':'.toNat then
          (scanOnce n (skipSpace t)).bind fun v =>
            match skipSpace v.2 with
            | [] => .error .decode
            | d :: u =>
              if d = '\x7d'.toNat then .ok (setItem k.1 v.1 items, u)
              else if d = ','.toNat then
                match skipSpace u with
                | [] => .error .decode
                | e :: w => if e = '"'.toNat then scanItems n (setItem k.1 v.1 items) w else .error .decode
              else .error .decode
        else .error .decode

end

/-- A text that begins with a byte order mark is refused. -/
def loads [PyFloat F] (s : Str) : Except JsonError (Json F) :=
  if s.head? = some 0xfeff then .error .decode
  else
    (scanOnce (s.length + 1) (skipSpace s)).bind fun p =>
      if skipSpace p.2 = [] then .ok p.1 else .error .decode

theorem isDigit_of_mem_decimal {n c : ℕ} (h : c ∈ decimal n) : isDigit c := by
  obtain ⟨d, hd, rfl⟩ := List.mem_map.1 h
  have hdigit := Nat.isDigit_of_mem_toDigits (by decide) (by decide) hd
  simp only [Char.isDigit, Bool.and_eq_true, decide_eq_true_eq] at hdigit
  simp only [isDigit, Bool.and_eq_true, decide_eq_true_eq]
  exact hdigit

theorem ofDecimal_decimal (n : ℕ) : ofDecimal (decimal n) = n := by
  rw [ofDecimal, decimal, List.foldl_map]
  rw [← Nat.ofDigitChars_eq_foldl, Nat.ofDigitChars_ten_toDigits]

/-- The first digit is not zero. -/
theorem decimal_eq_cons {n : ℕ} (h : n ≠ 0) : ∃ c t, decimal n = c :: t ∧ c ≠ '0'.toNat := by
  induction n using Nat.strong_induction_on with
  | _ n ih =>
    by_cases hn : n < 10
    · have hsmall : ∀ m < 10, m ≠ 0 → m.digitChar.toNat ≠ '0'.toNat := by decide
      exact ⟨_, [], by rw [decimal, Nat.toDigits_of_lt_base hn]; rfl, hsmall n hn h⟩
    · obtain ⟨c, t, ht, hc⟩ := ih (n / 10) (by omega) (by omega)
      have hsplit : decimal n = decimal (n / 10) ++ [(n % 10).digitChar.toNat] := by
        rw [decimal, Nat.toDigits_of_base_le (by decide) (by omega), List.map_append]
        rfl
      exact ⟨c, t ++ [(n % 10).digitChar.toNat], by rw [hsplit, ht]; rfl, hc⟩

theorem scanInteger_decimal (n : ℕ) : scanInteger (decimal n) = some (decimal n, []) := by
  by_cases hn : n = 0
  · subst hn
    rfl
  · obtain ⟨c, t, ht, hc⟩ := decimal_eq_cons hn
    have hdigit : ∀ d ∈ c :: t, isDigit d := fun d hd => isDigit_of_mem_decimal (ht ▸ hd)
    have htail : ∀ d ∈ t, isDigit d := fun d hd => hdigit d (List.mem_cons_of_mem c hd)
    rw [ht, scanInteger, if_neg hc, if_pos (hdigit c List.mem_cons_self)]
    simp [List.takeWhile_eq_self_iff.2 htail, List.dropWhile_eq_nil_iff.2 htail]

/-- What follows a value inside a list or a dict. -/
def Stops (rest : Str) : Prop := ∀ c ∈ rest.head?, c = ','.toNat ∨ c = ']'.toNat ∨ c = '\x7d'.toNat

theorem stops_nil : Stops [] := fun _ h => by cases h

variable {s rest : Str}

theorem Stops.not_digit (h : Stops rest) : rest.takeWhile isDigit = [] := by
  cases rest with
  | nil => rfl
  | cons c rest =>
    have hc : isDigit c = false := by rcases h c rfl with rfl | rfl | rfl <;> rfl
    simp [hc]

theorem takeWhile_digits_append (h : Stops rest) (s : Str) :
    (s ++ rest).takeWhile isDigit = s.takeWhile isDigit := by
  rw [List.takeWhile_append, h.not_digit, List.append_nil]
  split
  · next hall => exact (List.takeWhile_prefix isDigit).eq_of_length hall |>.symm
  · rfl

theorem dropWhile_digits_append (h : Stops rest) (s : Str) :
    (s ++ rest).dropWhile isDigit = s.dropWhile isDigit ++ rest := by
  have hcut := List.takeWhile_append_dropWhile (p := isDigit) (l := s ++ rest)
  have hcut' := List.takeWhile_append_dropWhile (p := isDigit) (l := s)
  rw [takeWhile_digits_append h] at hcut
  conv at hcut => rhs; rw [← hcut', List.append_assoc]
  exact List.append_cancel_left hcut

theorem scanInteger_append (h : Stops rest) (s : Str) :
    scanInteger (s ++ rest) = (scanInteger s).map fun p => (p.1, p.2 ++ rest) := by
  cases s with
  | nil =>
    cases rest with
    | nil => rfl
    | cons c rest => rcases h c rfl with rfl | rfl | rfl <;> rfl
  | cons c s =>
    simp only [List.cons_append, scanInteger, takeWhile_digits_append h, dropWhile_digits_append h]
    split_ifs <;> rfl

theorem scanSign_append {signs : List ℕ} (hsigns : ∀ c ∈ rest.head?, c ∉ signs) (s : Str) :
    scanSign signs (s ++ rest) = ((scanSign signs s).1, (scanSign signs s).2 ++ rest) := by
  cases s with
  | nil =>
    cases rest with
    | nil => rfl
    | cons c rest => simp [scanSign, hsigns c rfl]
  | cons c s =>
    simp only [List.cons_append, scanSign]
    split_ifs <;> rfl

theorem scanFraction_append (h : Stops rest) (s : Str) :
    scanFraction (s ++ rest) = ((scanFraction s).1, (scanFraction s).2 ++ rest) := by
  match s with
  | [] =>
    cases rest with
    | nil => rfl
    | cons c rest =>
      cases rest with
      | nil => rfl
      | cons d rest => rcases h c rfl with rfl | rfl | rfl <;> rfl
  | [c] =>
    cases rest with
    | nil => rfl
    | cons d rest =>
      have hd : isDigit d = false := by rcases h d rfl with rfl | rfl | rfl <;> rfl
      simp [scanFraction, hd]
  | c :: d :: s =>
    simp only [List.cons_append, scanFraction, takeWhile_digits_append h, dropWhile_digits_append h]
    split_ifs <;> rfl

theorem Stops.head_notMem (h : Stops rest) (chars : List ℕ)
    (hchars : ','.toNat ∉ chars ∧ ']'.toNat ∉ chars ∧ '\x7d'.toNat ∉ chars) : ∀ c ∈ rest.head?, c ∉ chars := by
  intro c hc
  rcases h c hc with rfl | rfl | rfl
  · exact hchars.1
  · exact hchars.2.1
  · exact hchars.2.2

theorem scanExponent_append (h : Stops rest) (s : Str) :
    scanExponent (s ++ rest) = ((scanExponent s).1, (scanExponent s).2 ++ rest) := by
  cases s with
  | nil =>
    cases rest with
    | nil => rfl
    | cons c rest => rcases h c rfl with rfl | rfl | rfl <;> rfl
  | cons c s =>
    have hsign := scanSign_append (h.head_notMem ['-'.toNat, '+'.toNat] (by decide)) s
    simp only [List.cons_append, scanExponent, hsign, takeWhile_digits_append h, dropWhile_digits_append h]
    split_ifs <;> rfl

/-- A number ends where it would end at the end of the text. -/
theorem scanNumber_append (h : Stops rest) (s : Str) :
    scanNumber (s ++ rest) = (scanNumber s).map fun t => { t with rest := t.rest ++ rest } := by
  have hsign := scanSign_append (h.head_notMem ['-'.toNat] (by decide)) s
  simp only [scanNumber, hsign, scanInteger_append h]
  cases scanInteger (scanSign ['-'.toNat] s).2 with
  | none => rfl
  | some p => simp [scanFraction_append h, scanExponent_append h]

theorem scanSign_decimal (n : ℕ) : scanSign ['-'.toNat] (decimal n) = ([], decimal n) := by
  cases h : decimal n with
  | nil => rfl
  | cons c t =>
    have hdigit := isDigit_of_mem_decimal (n := n) (h ▸ List.mem_cons_self)
    have hc : c ≠ '-'.toNat := by
      rintro rfl
      exact absurd hdigit (by decide)
    exact if_neg (mt List.mem_singleton.1 hc)

theorem scanSign_intText (n : ℤ) : scanSign ['-'.toNat] (intText n) =
    (if n < 0 then ['-'.toNat] else [], decimal n.natAbs) := by
  unfold intText
  split_ifs
  · rfl
  · exact scanSign_decimal _

theorem ofIntText_intText (n : ℤ) : ofIntText (intText n) = n := by
  simp only [ofIntText, scanSign_intText, ofDecimal_decimal]
  split_ifs with h
  · rename_i hne
    cases hne
  · omega
  · omega
  · rename_i hne
    exact absurd rfl hne

theorem scanNumber_intText (n : ℤ) : scanNumber (intText n) = some ⟨intText n, [], [], []⟩ := by
  simp only [scanNumber, scanSign_intText, scanInteger_decimal]
  rfl

theorem scanInteger_start {p : Str × Str} (h : scanInteger s = some p) : ∃ c s', s = c :: s' ∧ isDigit c := by
  cases s with
  | nil => cases h
  | cons c s =>
    refine ⟨c, s, rfl, ?_⟩
    by_contra hdigit
    have hzero : c ≠ '0'.toNat := fun hc => hdigit (hc ▸ rfl)
    rw [scanInteger, if_neg hzero, if_neg hdigit] at h
    cases h

theorem scanNumber_start {t : NumberText} (h : scanNumber s = some t) :
    ∃ c s', s = c :: s' ∧ (isDigit c ∨ c = '-'.toNat ∧ ∃ d s'', s' = d :: s'' ∧ isDigit d) := by
  obtain ⟨p, hp, -⟩ := Option.map_eq_some_iff.1 h
  obtain ⟨d, s'', hs, hd⟩ := scanInteger_start hp
  cases s with
  | nil => cases hs
  | cons c s' =>
    refine ⟨c, s', rfl, ?_⟩
    by_cases hc : c = '-'.toNat
    · rw [scanSign, if_pos (List.mem_singleton.2 hc)] at hs
      exact .inr ⟨hc, d, s'', hs, hd⟩
    · rw [scanSign, if_neg (mt List.mem_singleton.1 hc)] at hs
      obtain rfl := (List.cons.inj hs).1
      exact .inl hd

/-- A text that begins like a number is none of the constants. -/
theorem constants_of_number [PyFloat F] {t : NumberText} (h : scanNumber s = some t) :
    (constants : List (Str × Json F)).find? (fun e => e.1.isPrefixOf s) = none := by
  have hdigit {c : ℕ} (hc : isDigit c) : 48 ≤ c ∧ c ≤ 57 := by
    simpa [isDigit] using hc
  obtain ⟨c, s', rfl, hc | ⟨rfl, d, s'', rfl, hd⟩⟩ := scanNumber_start h
  · obtain ⟨hlow, hhigh⟩ := hdigit hc
    have hne : ∀ n ∈ [110, 116, 102, 78, 73, 45], n ≠ c := by
      intro n hn
      simp only [List.mem_cons, List.not_mem_nil, or_false] at hn
      omega
    simp only [List.forall_mem_cons] at hne
    simp [constants, lit, hne]
  · obtain ⟨hlow, hhigh⟩ := hdigit hd
    have hne : 73 ≠ d := by omega
    simp [constants, lit, hne]

theorem scanAtom_of_number [PyFloat F] {t : NumberText} (h : scanNumber s = some t) :
    scanAtom s = (numberValue t).map fun v : Json F => (v, t.rest) := by
  rw [scanAtom, constants_of_number h, h]

theorem scanAtom_int [PyFloat F] {n : ℤ} (hn : (decimal n.natAbs).length ≤ maxStrDigits) (h : Stops rest) :
    scanAtom (intText n ++ rest) = .ok ((int n : Json F), rest) := by
  have hscan : scanNumber (intText n ++ rest) = some ⟨intText n, [], [], rest⟩ := by
    rw [scanNumber_append h, scanNumber_intText]
    rfl
  rw [scanAtom_of_number hscan, numberValue, if_pos ⟨rfl, rfl⟩, if_neg, ofIntText_intText]
  · rfl
  · rw [scanSign_intText]
    exact Nat.not_lt.2 hn

theorem scanSign_cut (signs : List ℕ) (s : Str) : (scanSign signs s).1 ++ (scanSign signs s).2 = s := by
  cases s with
  | nil => rfl
  | cons c s =>
    simp only [scanSign]
    split_ifs <;> rfl

theorem scanInteger_cut {p : Str × Str} (h : scanInteger s = some p) : p.1 ++ p.2 = s := by
  cases s with
  | nil => cases h
  | cons c s =>
    simp only [scanInteger] at h
    split_ifs at h
    · obtain rfl := Option.some.inj h
      rfl
    · obtain rfl := Option.some.inj h
      exact congrArg (c :: ·) List.takeWhile_append_dropWhile

theorem scanFraction_cut (s : Str) : (scanFraction s).1 ++ (scanFraction s).2 = s := by
  match s with
  | [] => rfl
  | [c] => rfl
  | c :: d :: s =>
    simp only [scanFraction]
    split_ifs
    · exact congrArg (fun t => c :: d :: t) List.takeWhile_append_dropWhile
    · rfl

theorem scanExponent_cut (s : Str) : (scanExponent s).1 ++ (scanExponent s).2 = s := by
  cases s with
  | nil => rfl
  | cons c s =>
    simp only [scanExponent]
    split_ifs
    · rw [List.cons_append, List.append_assoc, List.takeWhile_append_dropWhile, scanSign_cut]
    · rfl

theorem scanNumber_cut {t : NumberText} (h : scanNumber s = some t) :
    t.integer ++ t.fraction ++ t.exponent ++ t.rest = s := by
  obtain ⟨p, hp, rfl⟩ := Option.map_eq_some_iff.1 h
  simp only [List.append_assoc]
  rw [scanExponent_cut, scanFraction_cut, scanInteger_cut hp, scanSign_cut]

/-- What is relied on: a finite float is printed as a number with a fraction or an exponent, and `float` reads
back what was printed. -/
class LawfulPyFloat (F : Type) [PyFloat F] : Prop where
  number : ∀ x : F, PyFloat.isFinite x → ∃ t, scanNumber (PyFloat.repr x) = some t ∧ t.rest = [] ∧
    ¬(t.fraction = [] ∧ t.exponent = [])
  ofText_repr : ∀ x : F, PyFloat.isFinite x → PyFloat.ofText (PyFloat.repr x) = x

theorem scanAtom_float [PyFloat F] [LawfulPyFloat F] {x : F} (hx : PyFloat.isFinite x) (h : Stops rest) :
    scanAtom (PyFloat.repr x ++ rest) = .ok (float x, rest) := by
  obtain ⟨t, ht, hrest, hfloat⟩ := LawfulPyFloat.number x hx
  have hcut := scanNumber_cut ht
  rw [hrest, List.append_nil] at hcut
  have hscan : scanNumber (PyFloat.repr x ++ rest) = some { t with rest := rest } := by
    rw [scanNumber_append h, ht, Option.map_some, hrest]
    rfl
  rw [scanAtom_of_number hscan, numberValue, if_neg hfloat, hcut, LawfulPyFloat.ofText_repr x hx]
  rfl

theorem hexValue_hexDigit {n : ℕ} (h : n < 16) : hexValue (hexDigit n) = some n := by
  have hall : ∀ n < 16, hexValue (hexDigit n) = some n := by decide
  exact hall n h

theorem scanString_escape (c n : ℕ) (t : Str) :
    scanString (n + 1) (escape c ++ t) = (scanString n t).map fun p => (c :: p.1, p.2) := by
  unfold escape
  cases hlookup : escapes.lookup c with
  | some letter =>
    obtain ⟨before, after, hsplit, -⟩ := List.lookup_eq_some_iff.1 hlookup
    have hmem : (c, letter) ∈ escapes := hsplit ▸ List.mem_append_right _ List.mem_cons_self
    simp only [escapes, List.mem_cons, Prod.mk.injEq, List.not_mem_nil, or_false] at hmem
    rcases hmem with ⟨rfl, rfl⟩ | ⟨rfl, rfl⟩ | ⟨rfl, rfl⟩ | ⟨rfl, rfl⟩ | ⟨rfl, rfl⟩ | ⟨rfl, rfl⟩ | ⟨rfl, rfl⟩
    all_goals rfl
  | none =>
    have hquote : c ≠ '"'.toNat := by
      rintro rfl
      exact absurd hlookup (by decide)
    have hbackslash : c ≠ '\\'.toNat := by
      rintro rfl
      exact absurd hlookup (by decide)
    by_cases hc : c < 0x20
    · have hhigh := hexValue_hexDigit (n := c / 16) (by omega)
      have hlow := hexValue_hexDigit (n := c % 16) (by omega)
      have hhex : scanHex4 ('0'.toNat :: '0'.toNat :: hexDigit (c / 16) :: hexDigit (c % 16) :: t) =
          some (c, t) := by
        have hzero : hexValue '0'.toNat = some 0 := rfl
        have hvalue : (0 * 16 + 0) * 256 + c / 16 * 16 + c % 16 = c := by omega
        rw [scanHex4, hzero, hhigh, hlow]
        exact congrArg (fun v => some (v, t)) hvalue
      have hnot : ¬(0xd800 ≤ c ∧ c < 0xdc00 ∧ t.take 2 = lit "\\u") := fun h => by omega
      have hunicode : scanUnicode ('0'.toNat :: '0'.toNat :: hexDigit (c / 16) :: hexDigit (c % 16) :: t) =
          some (c, t) := by
        rw [scanUnicode, hhex]
        exact if_neg hnot
      have hescape : scanEscape ('u'.toNat :: '0'.toNat :: '0'.toNat :: hexDigit (c / 16) ::
          hexDigit (c % 16) :: t) = some (c, t) := hunicode
      have htext : lit "\\u00" ++ [hexDigit (c / 16), hexDigit (c % 16)] ++ t =
          '\\'.toNat :: 'u'.toNat :: '0'.toNat :: '0'.toNat :: hexDigit (c / 16) :: hexDigit (c % 16) :: t := rfl
      rw [if_pos hc, htext, scanString, if_neg (by decide), if_pos rfl, hescape]
    · simp only [hc, if_false, List.cons_append, List.nil_append, scanString, hquote, hbackslash]

theorem scanString_escapes (s t : Str) {n : ℕ} (h : s.length < n) :
    scanString n (s.flatMap escape ++ '"'.toNat :: t) = .ok (s, t) := by
  induction s generalizing n with
  | nil =>
    obtain ⟨n, rfl⟩ := Nat.exists_eq_succ_of_ne_zero (Nat.ne_of_gt (Nat.zero_lt_of_lt h))
    rfl
  | cons c s ih =>
    obtain ⟨n, rfl⟩ := Nat.exists_eq_succ_of_ne_zero (Nat.ne_of_gt (Nat.zero_lt_of_lt h))
    rw [List.flatMap_cons, List.append_assoc, scanString_escape, ih (Nat.lt_of_succ_lt_succ h)]
    rfl

theorem length_le_escapes (s : Str) : s.length ≤ (s.flatMap escape).length := by
  have hone (c : ℕ) : 1 ≤ (escape c).length := by
    unfold escape
    split
    · simp
    · split_ifs <;> simp
  induction s with
  | nil => simp
  | cons c s ih =>
    have := hone c
    simp only [List.flatMap_cons, List.length_append, List.length_cons]
    omega

/-- Reading what was quoted, after its opening quote. -/
theorem scanString_quote (s t : Str) :
    ∃ u, quote s ++ t = '"'.toNat :: u ∧ scanString u.length u = .ok (s, t) := by
  refine ⟨s.flatMap escape ++ '"'.toNat :: t, by simp [quote], ?_⟩
  apply scanString_escapes
  have := length_le_escapes s
  simp only [List.length_append, List.length_cons]
  omega

/-- Induction over the nesting. -/
@[elab_as_elim]
theorem induct {P : Json F → Prop} (null : P null) (bool : ∀ b, P (bool b)) (int : ∀ n, P (int n))
    (float : ∀ x, P (float x)) (string : ∀ s, P (string s)) (list : ∀ xs, (∀ x ∈ xs, P x) → P (list xs))
    (dict : ∀ items, (∀ e ∈ items, P e.2) → P (dict items)) (v : Json F) : P v := by
  refine @Json.rec F P (fun xs => ∀ x ∈ xs, P x) (fun items => ∀ e ∈ items, P e.2) (fun e => P e.2)
    null bool int float string list dict ?_ ?_ ?_ ?_ ?_ v
  · simp
  · exact fun x xs hx hxs => List.forall_mem_cons.2 ⟨hx, hxs⟩
  · simp
  · exact fun e items he hitems => List.forall_mem_cons.2 ⟨he, hitems⟩
  · exact fun _ _ h => h

mutual

/-- No dict has a key twice. -/
def Distinct : Json F → Prop
  | list xs => DistinctAll xs
  | dict items => (items.map Prod.fst).Nodup ∧ DistinctItems items
  | _ => True

def DistinctAll : List (Json F) → Prop
  | [] => True
  | x :: xs => x.Distinct ∧ DistinctAll xs

def DistinctItems : List (Str × Json F) → Prop
  | [] => True
  | (_, v) :: items => v.Distinct ∧ DistinctItems items

end

theorem distinctAll_iff {xs : List (Json F)} : DistinctAll xs ↔ ∀ x ∈ xs, x.Distinct := by
  induction xs with
  | nil => simp [DistinctAll]
  | cons x xs ih => simp [DistinctAll, ih]

theorem distinctItems_iff {items : List (Str × Json F)} : DistinctItems items ↔ ∀ e ∈ items, e.2.Distinct := by
  induction items with
  | nil => simp [DistinctItems]
  | cons e items ih => simp [DistinctItems, ih]

theorem printableAll_iff [PyFloat F] {xs : List (Json F)} : printableAll xs ↔ ∀ x ∈ xs, x.printable := by
  induction xs with
  | nil => simp [printableAll]
  | cons x xs ih => simp [printableAll, ih]

theorem printableItems_iff [PyFloat F] {items : List (Str × Json F)} :
    printableItems items ↔ ∀ e ∈ items, e.2.printable := by
  induction items with
  | nil => simp [printableItems]
  | cons e items ih => simp [printableItems, ih]

theorem setItem_of_notMem {k : Str} {items : List (Str × Json F)} (h : k ∉ items.map Prod.fst) (v : Json F) :
    setItem k v items = items ++ [(k, v)] := by
  induction items with
  | nil => rfl
  | cons e items ih =>
    rw [List.map_cons, List.mem_cons, not_or] at h
    rw [setItem, if_neg (Ne.symm h.1), ih h.2]
    rfl

/-- The characters that values begin with. -/
def Opens (c : ℕ) : Prop := isDigit c ∨ c ∈ ['n', 't', 'f', '-', '"', '[', '\x7b'].map Char.toNat

instance (c : ℕ) : Decidable (Opens c) := inferInstanceAs (Decidable (_ ∨ _))

theorem Opens.code {c : ℕ} (h : Opens c) : isSpace c = false ∧ c ≠ ']'.toNat ∧ c ≠ 0xfeff := by
  have hall : ∀ c < 128, Opens c → isSpace c = false ∧ c ≠ ']'.toNat ∧ c ≠ 0xfeff := by decide
  refine hall c ?_ h
  rcases h with h | h
  · have hdigit : '0'.toNat ≤ c ∧ c ≤ '9'.toNat := by simpa [isDigit] using h
    exact Nat.lt_of_le_of_lt hdigit.2 (by decide)
  · have hsmall : ∀ c ∈ ['n', 't', 'f', '-', '"', '[', '\x7b'].map Char.toNat, c < 128 := by decide
    exact hsmall c h

section

variable [PyFloat F]

/-- The text of the value is read back, if what comes after it may come after a value. -/
structure Readable (v : Json F) : Prop where
  opens : ∃ c t, v.text = c :: t ∧ Opens c
  scan : ∀ n rest, v.text.length ≤ n → Stops rest → scanOnce n (v.text ++ rest) = .ok (v, rest)

theorem skipSpace_of_opens {c : ℕ} (h : Opens c) (s : Str) : skipSpace (c :: s) = c :: s := by
  rw [skipSpace, List.dropWhile_cons, h.code.1]
  rfl

theorem Readable.skipSpace {v : Json F} (h : v.Readable) (s : Str) :
    skipSpace (v.text ++ s) = v.text ++ s := by
  obtain ⟨c, t, ht, hc⟩ := h.opens
  rw [ht, List.cons_append, skipSpace_of_opens hc]

theorem Readable.length_pos {v : Json F} (h : v.Readable) : 0 < v.text.length := by
  obtain ⟨c, t, ht, -⟩ := h.opens
  simp [ht]

theorem stops_textTail (xs : List (Json F)) (rest : Str) : Stops (textTail xs ++ rest) := by
  cases xs with
  | nil => exact fun c hc => .inr (.inl (Option.some.inj hc).symm)
  | cons x xs => exact fun c hc => .inl (Option.some.inj hc).symm

theorem scanElements_text {x : Json F} {xs : List (Json F)} (hx : x.Readable) (hxs : ∀ y ∈ xs, y.Readable)
    {n : ℕ} (hn : (x.text ++ textTail xs).length ≤ n) (rest : Str) :
    scanElements n (x.text ++ (textTail xs ++ rest)) = .ok (x :: xs, rest) := by
  induction xs generalizing x n with
  | nil =>
    rw [List.length_append] at hn
    have hpos := hx.length_pos
    obtain ⟨n, rfl⟩ : ∃ m, n = m + 1 := ⟨n - 1, by omega⟩
    have hfuel : x.text.length ≤ n := by
      simp only [textTail, List.length_cons, List.length_nil] at hn
      omega
    rw [scanElements, hx.scan n _ hfuel (stops_textTail [] rest)]
    rfl
  | cons y ys ih =>
    obtain ⟨hy, hys⟩ := List.forall_mem_cons.1 hxs
    rw [List.length_append, textTail, List.length_cons] at hn
    have hpos := hx.length_pos
    obtain ⟨n, rfl⟩ : ∃ m, n = m + 1 := ⟨n - 1, by omega⟩
    rw [scanElements, hx.scan n _ (by omega) (stops_textTail (y :: ys) rest)]
    have hrest := ih hy hys (n := n) (by omega)
    have hskip := hy.skipSpace (textTail ys ++ rest)
    have hcomma : skipSpace (textTail (y :: ys) ++ rest) = ','.toNat :: (y.text ++ (textTail ys ++ rest)) := by
      simp [textTail, skipSpace, isSpace]
    simp only [Except.bind, hcomma, hskip, hrest]
    rfl

/-- From the first quote of a key on. -/
theorem scanItems_text {k : Str} {v : Json F} {items before : List (Str × Json F)} (hv : v.Readable)
    (hitems : ∀ e ∈ items, e.2.Readable) (hkeys : ((before ++ (k, v) :: items).map Prod.fst).Nodup) {n : ℕ}
    (hn : (v.text ++ textItems items).length ≤ n) (rest : Str) :
    ∃ u, quote k ++ (':'.toNat :: (v.text ++ (textItems items ++ rest))) = '"'.toNat :: u ∧
      scanItems n before u = .ok (before ++ (k, v) :: items, rest) := by
  induction items generalizing k v before n with
  | nil =>
    obtain ⟨u, hu, hkey⟩ := scanString_quote k (':'.toNat :: (v.text ++ ('\x7d'.toNat :: rest)))
    refine ⟨u, hu, ?_⟩
    have hpos := hv.length_pos
    rw [List.length_append, textItems, List.length_singleton] at hn
    obtain ⟨n, rfl⟩ : ∃ m, n = m + 1 := ⟨n - 1, by omega⟩
    have hnew : k ∉ before.map Prod.fst := by
      rw [List.map_append, List.nodup_append] at hkeys
      exact fun hk => hkeys.2.2 k hk k List.mem_cons_self rfl
    have hcolon (t : Str) : skipSpace (':'.toNat :: t) = ':'.toNat :: t := rfl
    have hend : skipSpace ('\x7d'.toNat :: rest) = '\x7d'.toNat :: rest := rfl
    have hvalue := hv.scan n ('\x7d'.toNat :: rest) (by omega)
      fun c hc => .inr (.inr (Option.some.inj hc).symm)
    rw [scanItems, hkey]
    simp only [Except.bind, hcolon, if_true, hv.skipSpace, hvalue, hend]
    rw [setItem_of_notMem hnew]
  | cons e items ih =>
    obtain ⟨he, hrest⟩ := List.forall_mem_cons.1 hitems
    have hpos := hv.length_pos
    simp only [textItems, List.length_append, List.length_cons] at hn
    obtain ⟨n, rfl⟩ : ∃ m, n = m + 1 := ⟨n - 1, by omega⟩
    have hnew : k ∉ before.map Prod.fst := by
      rw [List.map_append, List.nodup_append] at hkeys
      exact fun hk => hkeys.2.2 k hk k List.mem_cons_self rfl
    have hkeys' : ((before ++ [(k, v)] ++ (e.1, e.2) :: items).map Prod.fst).Nodup := by simpa using hkeys
    obtain ⟨w, hw, hscan⟩ := ih he hrest hkeys' (n := n) (by rw [List.length_append]; omega)
    have htail : textItems (e :: items) ++ rest = ','.toNat :: '"'.toNat :: w := by
      rw [← hw]
      simp [textItems]
    obtain ⟨u, hu, hkey⟩ := scanString_quote k (':'.toNat :: (v.text ++ (','.toNat :: '"'.toNat :: w)))
    refine ⟨u, by rw [htail]; exact hu, ?_⟩
    have hcolon (t : Str) : skipSpace (':'.toNat :: t) = ':'.toNat :: t := rfl
    have hcomma (t : Str) : skipSpace (','.toNat :: t) = ','.toNat :: t := rfl
    have hquote (t : Str) : skipSpace ('"'.toNat :: t) = '"'.toNat :: t := rfl
    have hvalue := hv.scan n (','.toNat :: '"'.toNat :: w) (by omega) fun c hc => .inl (Option.some.inj hc).symm
    have hne : ','.toNat ≠ '\x7d'.toNat := by decide
    rw [scanItems, hkey]
    simp only [Except.bind, hcolon, if_true, hv.skipSpace, hvalue, hcomma, hne, if_false, hquote]
    rw [setItem_of_notMem hnew, hscan, List.append_assoc]
    rfl

theorem readable_number {v : Json F} {t : NumberText} (ht : scanNumber v.text = some t)
    (hscan : ∀ rest, Stops rest → scanAtom (v.text ++ rest) = .ok (v, rest)) : v.Readable := by
  obtain ⟨c, s, hs, hc⟩ := scanNumber_start ht
  have hc' : isDigit c ∨ c = '-'.toNat := hc.imp_right And.left
  have hne : c ≠ '"'.toNat ∧ c ≠ '['.toNat ∧ c ≠ '\x7b'.toNat := by
    rcases hc' with hdigit | rfl
    · refine ⟨?_, ?_, ?_⟩ <;> rintro rfl <;> cases hdigit
    · decide
  have hopens : Opens c := hc'.imp_right (by rintro rfl; decide)
  refine ⟨⟨c, s, hs, hopens⟩, fun n rest hn hrest => ?_⟩
  rw [hs, List.length_cons] at hn
  obtain ⟨n, rfl⟩ : ∃ m, n = m + 1 := ⟨n - 1, by omega⟩
  rw [← hscan rest hrest, hs, List.cons_append, scanOnce, if_neg hne.1, if_neg hne.2.1, if_neg hne.2.2]

/-- A value that needs no more fuel than one. -/
theorem readable_of_scan {v : Json F} {c : ℕ} {t : Str} (ht : v.text = c :: t) (hc : Opens c)
    (hscan : ∀ n rest, scanOnce (n + 1) (v.text ++ rest) = .ok (v, rest)) : v.Readable := by
  refine ⟨⟨c, t, ht, hc⟩, fun n rest hn _ => ?_⟩
  rw [ht, List.length_cons] at hn
  obtain ⟨n, rfl⟩ : ∃ m, n = m + 1 := ⟨n - 1, by omega⟩
  exact hscan n rest

theorem readable_string (s : Str) : (string s : Json F).Readable where
  opens := ⟨_, _, rfl, by decide⟩
  scan n rest hn _ := by
    obtain ⟨u, hu, hscan⟩ := scanString_quote s rest
    simp only [text, quote, List.length_cons] at hn
    obtain ⟨n, rfl⟩ : ∃ m, n = m + 1 := ⟨n - 1, by omega⟩
    rw [text, hu, scanOnce, if_pos rfl, hscan]
    rfl

theorem readable_list {xs : List (Json F)} (h : ∀ x ∈ xs, x.Readable) : (list xs).Readable := by
  cases xs with
  | nil => exact readable_of_scan rfl (by decide) fun _ _ => rfl
  | cons x xs =>
    obtain ⟨hx, hxs⟩ := List.forall_mem_cons.1 h
    refine ⟨⟨_, _, rfl, by decide⟩, fun n rest hn _ => ?_⟩
    rw [text, List.length_cons] at hn
    obtain ⟨n, rfl⟩ : ∃ m, n = m + 1 := ⟨n - 1, by omega⟩
    obtain ⟨c, t, ht, hc⟩ := hx.opens
    have helements := scanElements_text hx hxs (n := n) (by omega) rest
    have hskip := hx.skipSpace (textTail xs ++ rest)
    rw [ht, List.cons_append] at hskip helements
    rw [text, List.cons_append, List.append_assoc, ht, List.cons_append, scanOnce, if_neg (by decide), if_pos rfl,
      hskip]
    simp only [if_neg hc.code.2.1, helements]
    rfl

theorem readable_dict {items : List (Str × Json F)} (h : ∀ e ∈ items, e.2.Readable)
    (hkeys : (items.map Prod.fst).Nodup) : (dict items).Readable := by
  cases items with
  | nil => exact readable_of_scan rfl (by decide) fun _ _ => rfl
  | cons e items =>
    obtain ⟨he, hitems⟩ := List.forall_mem_cons.1 h
    refine ⟨⟨_, _, rfl, by decide⟩, fun n rest hn _ => ?_⟩
    simp only [text, List.length_cons, List.length_append] at hn
    obtain ⟨n, rfl⟩ : ∃ m, n = m + 1 := ⟨n - 1, by omega⟩
    have hkeys' : (([] ++ (e.1, e.2) :: items).map Prod.fst).Nodup := hkeys
    obtain ⟨u, hu, hscan⟩ := scanItems_text he hitems hkeys' (n := n) (by rw [List.length_append]; omega) rest
    have hquote : skipSpace ('"'.toNat :: u) = '"'.toNat :: u := rfl
    rw [text, List.cons_append, List.append_assoc, List.cons_append, List.append_assoc, hu, scanOnce,
      if_neg (by decide), if_neg (by decide), if_pos rfl, hquote]
    simp only [hscan]
    rfl

theorem readable [LawfulPyFloat F] (v : Json F) (hp : v.printable) (hd : v.Distinct) : v.Readable := by
  induction v using induct with
  | null => exact readable_of_scan rfl (by decide) fun _ _ => rfl
  | bool b =>
    cases b with
    | false => exact readable_of_scan rfl (by decide) fun _ _ => rfl
    | true => exact readable_of_scan rfl (by decide) fun _ _ => rfl
  | int n =>
    refine readable_number (scanNumber_intText n) fun rest hrest => scanAtom_int ?_ hrest
    simpa [printable] using hp
  | float x =>
    obtain ⟨t, ht, -⟩ := LawfulPyFloat.number x hp
    exact readable_number ht fun rest hrest => scanAtom_float hp hrest
  | string s => exact readable_string s
  | list xs ih =>
    exact readable_list fun x hx => ih x hx (printableAll_iff.1 hp x hx) (distinctAll_iff.1 hd x hx)
  | dict items ih =>
    exact readable_dict
      (fun e he => ih e he (printableItems_iff.1 hp e he) (distinctItems_iff.1 hd.2 e he)) hd.1

end

instance : Std.Total fun a b : Str × Json F => a.1 ≤ b.1 := ⟨fun a b => le_total a.1 b.1⟩

instance : IsTrans (Str × Json F) fun a b => a.1 ≤ b.1 := ⟨fun _ _ _ => le_trans⟩

/-- The items in the order of their keys. -/
abbrev sortItems (items : List (Str × Json F)) : List (Str × Json F) := items.insertionSort fun a b => a.1 ≤ b.1

theorem sortedAll_eq_map (xs : List (Json F)) : sortedAll xs = xs.map sorted := by
  induction xs with
  | nil => rfl
  | cons x xs ih => rw [sortedAll, ih, List.map_cons]

theorem sortedItems_eq_map (items : List (Str × Json F)) :
    sortedItems items = items.map fun e => (e.1, e.2.sorted) := by
  induction items with
  | nil => rfl
  | cons e items ih => rw [sortedItems, ih, List.map_cons]

theorem sorted_dict (items : List (Str × Json F)) :
    (dict items).sorted = dict (sortItems (items.map fun e => (e.1, e.2.sorted))) := by
  rw [sorted, sortedItems_eq_map]

theorem sorted_list (xs : List (Json F)) : (list xs).sorted = list (xs.map sorted) := by
  rw [sorted, sortedAll_eq_map]

theorem mem_sortItems {e : Str × Json F} {items : List (Str × Json F)} : e ∈ sortItems items ↔ e ∈ items :=
  (List.perm_insertionSort _ items).mem_iff

theorem sorted_sorted (v : Json F) : v.sorted.sorted = v.sorted := by
  induction v using induct with
  | list xs ih =>
    rw [sorted_list, sorted_list, List.map_map]
    congr 1
    exact List.map_congr_left ih
  | dict items ih =>
    have hvalues : ∀ e ∈ sortItems (items.map fun e => (e.1, e.2.sorted)), (e.1, e.2.sorted) = e := by
      intro e he
      obtain ⟨e', he', rfl⟩ := List.mem_map.1 (mem_sortItems.1 he)
      simp only [ih e' he']
    rw [sorted_dict, sorted_dict, List.map_congr_left hvalues, List.map_id']
    congr 1
    exact (List.pairwise_insertionSort _ _).insertionSort_eq
  | _ => rfl

/-- Equal as dicts are: their items may come in any order. -/
def Same (v w : Json F) : Prop := v.sorted = w.sorted

theorem same_sorted (v : Json F) : v.sorted.Same v := sorted_sorted v

theorem distinct_sorted {v : Json F} (h : v.Distinct) : v.sorted.Distinct := by
  induction v using induct with
  | list xs ih =>
    rw [sorted_list, Distinct, distinctAll_iff]
    intro y hy
    obtain ⟨x, hx, rfl⟩ := List.mem_map.1 hy
    exact ih x hx (distinctAll_iff.1 h x hx)
  | dict items ih =>
    rw [sorted_dict, Distinct, distinctItems_iff]
    constructor
    · refine ((List.perm_insertionSort _ _).map Prod.fst).nodup_iff.2 ?_
      rw [List.map_map]
      exact h.1
    · intro e he
      obtain ⟨e', he', rfl⟩ := List.mem_map.1 (mem_sortItems.1 he)
      exact ih e' he' (distinctItems_iff.1 h.2 e' he')
  | _ => exact h

theorem printable_sorted [PyFloat F] (v : Json F) : v.sorted.printable = v.printable := by
  induction v using induct with
  | list xs ih =>
    rw [Bool.eq_iff_iff, sorted_list, printable, printable, printableAll_iff, printableAll_iff,
      List.forall_mem_map]
    exact forall₂_congr fun x hx => by rw [ih x hx]
  | dict items ih =>
    rw [Bool.eq_iff_iff, sorted_dict, printable, printable, printableItems_iff, printableItems_iff]
    simp only [mem_sortItems, List.forall_mem_map]
    exact forall₂_congr fun e he => by rw [ih e he]
  | _ => rfl

/-- The order of the items does not matter to `dumps`. -/
theorem dumps_sorted [PyFloat F] (v : Json F) : v.sorted.dumps = v.dumps := by
  rw [dumps, dumps, printable_sorted, sorted_sorted]

/-- What was written is read back, with the items in the order of their keys. -/
theorem loads_of_dumps [PyFloat F] [LawfulPyFloat F] {v : Json F} (hd : v.Distinct) {s : Str}
    (h : v.dumps = .ok s) : loads s = .ok v.sorted := by
  unfold dumps at h
  split at h
  · next hp =>
    obtain rfl := Except.ok.inj h
    have hread := readable v.sorted (by rw [printable_sorted]; exact hp) (distinct_sorted hd)
    obtain ⟨c, t, ht, hc⟩ := hread.opens
    have hskip := hread.skipSpace []
    have hscan := hread.scan (v.sorted.text.length + 1) [] (Nat.le_succ _) stops_nil
    have hmark : v.sorted.text.head? ≠ some 0xfeff := by
      rw [ht]
      exact fun h => hc.code.2.2 (Option.some.inj h)
    rw [List.append_nil] at hskip hscan
    rw [loads, if_neg hmark, hskip, hscan]
    rfl
  · cases h

end Json

end VkRemote.Lib
