/-
CloudflareIpSync/Json.lean

JSON values as Python's `json` decodes them, and what Python's built-in
operations do with a value of any shape: truth, `.get`, subscripts, iteration,
`int` and `str`.

* A number without fraction and exponent is an integer of any size, every other
  one a float; the decoder also accepts `NaN`, `Infinity` and `-Infinity`.
* A text is one of Unicode characters; lone surrogates, which the decoder
  accepts, are left out.
* An object is a list of keys with values of which the first one for a key
  counts.
* `str` needs the text Python prints for a float, an array or an object.  It is
  an argument (`render`), so what is proved holds for any such text.

Exceptions are values, a constructor a class; their messages are left out.
-/
import CloudflareIpSync.Ipaddress
import Mathlib.Data.Rat.Defs

namespace Python

/-! ### Values -/

/-- The exceptions of the operations below. -/
inductive Exc
  | typeError
  | attributeError
  | keyError
  | valueError
  | overflowError
  deriving DecidableEq

/-- A `float`. -/
inductive PyFloat
  | finite (x : ℚ)
  | negZero
  | posInf
  | negInf
  | nan
  deriving DecidableEq

/-- A decoded JSON value. -/
inductive Json
  | null
  | bool (b : Bool)
  | int (n : ℤ)
  | float (x : PyFloat)
  | str (s : String)
  | arr (elements : List Json)
  | obj (fields : List (String × Json))

/-- A `dict` with text keys. -/
abbrev Dict := List (String × Json)

/-- `d.get(key, default)` on a `dict`. -/
def Dict.get (d : Dict) (key : String) (default : Json) : Json := (d.lookup key).getD default

namespace Json

/-- `bool(j)`. -/
def truthy : Json → Bool
  | null => false
  | bool b => b
  | int n => n ≠ 0
  | float (.finite x) => x ≠ 0
  | float .negZero => false
  | float _ => true
  | str s => s ≠ ""
  | arr elements => !elements.isEmpty
  | obj fields => !fields.isEmpty

/-- `isinstance(j, dict)`. -/
def isDict : Json → Bool
  | obj _ => true
  | _ => false

/-- `j.get(key, default)`; only a `dict` has this method. -/
def get (j : Json) (key : String) (default : Json) : Except Exc Json :=
  match j with
  | obj fields => .ok (Dict.get fields key default)
  | _ => .error .attributeError

/-- `j[key]`. -/
def item (j : Json) (key : String) : Except Exc Json :=
  match j with
  | obj fields =>
      match fields.lookup key with
      | some value => .ok value
      | none => .error .keyError
  | _ => .error .typeError

/-- `iter(j)`, all at once: an object gives its keys, a text its characters. -/
def iter : Json → Except Exc (List Json)
  | arr elements => .ok elements
  | obj fields => .ok (fields.map fun field => str field.1)
  | str s => .ok (s.toList.map fun c => str (String.singleton c))
  | _ => .error .typeError

end Json

/-! ### Integers -/

/-- What `int` strips from a text: ASCII whitespace without the separators
28 to 31, and all other whitespace. -/
def isIntSpace (c : Char) : Bool :=
  Ipaddress.isSpace c && !(28 ≤ c.toNat && c.toNat ≤ 31)

/-- The zero of each run of ten decimal digits in Unicode 15. -/
def decimalZeros : List ℕ :=
  [0x30, 0x660, 0x6F0, 0x7C0, 0x966, 0x9E6, 0xA66, 0xAE6, 0xB66, 0xBE6, 0xC66, 0xCE6, 0xD66,
    0xDE6, 0xE50, 0xED0, 0xF20, 0x1040, 0x1090, 0x17E0, 0x1810, 0x1946, 0x19D0, 0x1A80, 0x1A90,
    0x1B50, 0x1BB0, 0x1C40, 0x1C50, 0xA620, 0xA8D0, 0xA900, 0xA9D0, 0xA9F0, 0xAA50, 0xABF0,
    0xFF10, 0x104A0, 0x10D30, 0x11066, 0x110F0, 0x11136, 0x111D0, 0x112F0, 0x11450, 0x114D0,
    0x11650, 0x116C0, 0x11730, 0x118E0, 0x11950, 0x11C50, 0x11D50, 0x11DA0, 0x11F50, 0x16A60,
    0x16AC0, 0x16B50, 0x1D7CE, 0x1D7D8, 0x1D7E2, 0x1D7EC, 0x1D7F6, 0x1E140, 0x1E2F0, 0x1E4F0,
    0x1E950, 0x1FBF0]

/-- The value of a decimal digit. -/
def decimalDigit (c : Char) : Option ℕ :=
  (decimalZeros.find? fun start => start ≤ c.toNat && c.toNat < start + 10).map (c.toNat - ·)

/-- Groups of digits, a single underscore between two of them, at most 4300
digits in all. -/
def natOfDigits (s : List Char) : Option ℕ :=
  let groups := s.splitOn '_'
  if [] ∈ groups ∨ 4300 < groups.flatten.length then none
  else (groups.flatten.mapM decimalDigit).map fun digits =>
    digits.foldl (fun acc digit => acc * 10 + digit) 0

/-- `int(s)` on a text; `none` is `ValueError`. -/
def intOfStr (s : String) : Option ℤ :=
  match (s.toList.dropWhile isIntSpace).rdropWhile isIntSpace with
  | '-' :: digits => (natOfDigits digits).map fun n => -(n : ℤ)
  | '+' :: digits => (natOfDigits digits).map fun n => (n : ℤ)
  | digits => (natOfDigits digits).map fun n => (n : ℤ)

/-- `int(j)`. -/
def Json.toInt : Json → Except Exc ℤ
  | bool b => .ok b.toInt
  | int n => .ok n
  | float (.finite x) => .ok (x.num.tdiv x.den)
  | float .negZero => .ok 0
  | float .nan => .error .valueError
  | float _ => .error .overflowError
  | str s =>
      match intOfStr s with
      | some n => .ok n
      | none => .error .valueError
  | _ => .error .typeError

example : intOfStr " +1_000\n" = some 1000 := by decide +kernel

example : intOfStr "1__0" = none := by decide +kernel

/-! ### Texts -/

/-- `str(j)`, where `render` prints floats, arrays and objects. -/
def Json.pyStr (render : Json → String) : Json → String
  | null => "None"
  | bool true => "True"
  | bool false => "False"
  | int n => toString n
  | str s => s
  | j => render j

/-! ### Which operations raise -/

section Returns

variable {ε α β : Type}

/-- The computation ends without an exception. -/
def Returns (x : Except ε α) : Prop := ∃ a, x = .ok a

@[simp] theorem returns_ok (a : α) : Returns (.ok a : Except ε α) := ⟨a, rfl⟩

@[simp] theorem not_returns_error (exc : ε) : ¬ Returns (.error exc : Except ε α) := by
  rintro ⟨a, h⟩
  cases h

@[simp] theorem pure_eq_ok (a : α) : (pure a : Except ε α) = .ok a := rfl

@[simp] theorem ok_bind (a : α) (f : α → Except ε β) : (Except.ok a >>= f) = f a := rfl

@[simp] theorem error_bind (exc : ε) (f : α → Except ε β) :
    (Except.error exc >>= f) = .error exc := rfl

theorem bind_eq_ok_iff {x : Except ε α} {f : α → Except ε β} {b : β} :
    (x >>= f) = .ok b ↔ ∃ a, x = .ok a ∧ f a = .ok b := by
  rcases x with exc | a
  · constructor
    · intro h
      cases h
    · rintro ⟨a, h, -⟩
      cases h
  · constructor
    · intro h
      exact ⟨a, rfl, h⟩
    · rintro ⟨a', h, hf⟩
      cases h
      exact hf

theorem returns_bind_iff {x : Except ε α} {f : α → Except ε β} :
    Returns (x >>= f) ↔ ∃ a, x = .ok a ∧ Returns (f a) := by
  rcases x with exc | a
  · constructor
    · rintro ⟨b, h⟩
      cases h
    · rintro ⟨a, h, -⟩
      cases h
  · constructor
    · intro h
      exact ⟨a, rfl, h⟩
    · rintro ⟨a', h, hf⟩
      cases h
      exact hf

/-- A last step that only builds the result does not raise. -/
@[simp] theorem returns_bind_ok_iff {x : Except ε α} {g : α → β} :
    Returns (x >>= fun a => (.ok (g a) : Except ε β)) ↔ Returns x := by
  rcases x with exc | a
  · simp
  · simp

end Returns

@[simp] theorem Json.get_obj (fields : Dict) (key : String) (default : Json) :
    (Json.obj fields).get key default = .ok (Dict.get fields key default) := rfl

/-- A key with a true value is there. -/
theorem Json.item_of_truthy {fields : Dict} {key : String}
    (h : (Dict.get fields key .null).truthy = true) :
    (Json.obj fields).item key = .ok (Dict.get fields key .null) := by
  unfold Dict.get at h ⊢
  rcases hlookup : fields.lookup key with - | value
  · rw [hlookup] at h
    cases h
  · simp [item, hlookup]

/-- The values `int` accepts. -/
def Json.isIntLike : Json → Bool
  | bool _ => true
  | int _ => true
  | float (.finite _) => true
  | float .negZero => true
  | str s => (intOfStr s).isSome
  | _ => false

@[simp] theorem Json.returns_toInt_iff {j : Json} :
    Returns j.toInt ↔ j.isIntLike = true := by
  cases j with
  | float x => cases x <;> simp [toInt, isIntLike]
  | str s =>
      rcases h : intOfStr s with - | n
      · simp [toInt, isIntLike, h]
      · simp [toInt, isIntLike, h]
  | null | bool | int | arr | obj => simp [toInt, isIntLike]

end Python
