import Mathlib.Data.List.Basic
import Mathlib.Data.Rat.Defs
import Std.Data.String.ToInt
import Veronica.Library.Delimited
import Veronica.Library.Dict

/- The text `json.dumps` makes of an object whose values are scalars. Two objects with the same
   keys have one text only if they have the same values. -/
namespace Json

section Codes
variable {A C : Type} {code : A → List C} {stop : C}

/-- Wherever two words of the code begin alike, they are the same word. -/
def SelfDelimiting (code : A → List C) : Prop :=
  ∀ x y r s, code x ++ r = code y ++ s → x = y ∧ r = s

/-- No word of the code begins with the stop sign. -/
def Avoids (code : A → List C) (stop : C) : Prop := ∀ x, ∃ c t, code x = c :: t ∧ c ≠ stop

theorem flatMap_stop (delimiting : SelfDelimiting code) (avoids : Avoids code stop)
    {xs ys : List A} {r s : List C}
    (same : xs.flatMap code ++ stop :: r = ys.flatMap code ++ stop :: s) : xs = ys ∧ r = s := by
  induction xs generalizing ys with
  | nil =>
    cases ys with
    | nil => exact ⟨rfl, (List.cons.inj same).2⟩
    | cons y ys =>
      obtain ⟨c, t, word, other⟩ := avoids y
      rw [List.flatMap_cons, word] at same
      exact absurd (List.cons.inj same).1.symm other
  | cons x xs ih =>
    cases ys with
    | nil =>
      obtain ⟨c, t, word, other⟩ := avoids x
      rw [List.flatMap_cons, word] at same
      exact absurd (List.cons.inj same).1 other
    | cons y ys =>
      rw [List.flatMap_cons, List.flatMap_cons, List.append_assoc, List.append_assoc] at same
      obtain ⟨rfl, later⟩ := delimiting x y _ _ same
      obtain ⟨rfl, rest⟩ := ih later
      exact ⟨rfl, rest⟩

end Codes

section Strings

/-- The UTF-16 code units of a character. -/
def units (c : Char) : List Nat :=
  if c.toNat < 0x10000 then [c.toNat]
  else [0xD800 + (c.toNat - 0x10000) / 0x400, 0xDC00 + (c.toNat - 0x10000) % 0x400]

def hexDigits : List Char := "0123456789abcdef".toList
def hexDigit (d : Nat) : Char := hexDigits.getD d '0'

/-- Four hexadecimal digits. -/
def hex4 (u : Nat) : List Char :=
  [hexDigit (u / 0x1000 % 16), hexDigit (u / 0x100 % 16), hexDigit (u / 0x10 % 16),
    hexDigit (u % 16)]

/-- The escapes that have a letter of their own. -/
def shortEscapes : List (Nat × Char) :=
  [(0x22, '"'), (0x5C, '\\'), (0x08, 'b'), (0x0C, 'f'), (0x0A, 'n'), (0x0D, 'r'), (0x09, 't')]

/-- A code unit with `ensure_ascii`. -/
def escapeUnit (u : Nat) : List Char :=
  match shortEscapes.lookup u with
  | some letter => ['\\', letter]
  | none => if 0x20 ≤ u ∧ u ≤ 0x7E then [Char.ofNat u] else '\\' :: 'u' :: hex4 u

def escapeChar (c : Char) : List Char := (units c).flatMap escapeUnit

def quoted (s : String) : List Char := '"' :: (s.toList.flatMap escapeChar ++ ['"'])

/-- The code unit that an escaped text begins with, and the rest of the text. -/
def readUnit : List Char → Option (Nat × List Char)
  | '\\' :: 'u' :: a :: b :: c :: d :: rest =>
    some (hexDigits.idxOf a * 0x1000 + hexDigits.idxOf b * 0x100 + hexDigits.idxOf c * 0x10 +
      hexDigits.idxOf d, rest)
  | '\\' :: letter :: rest =>
    (shortEscapes.find? fun escape => escape.2 = letter).map fun escape => (escape.1, rest)
  | c :: rest => some (c.toNat, rest)
  | [] => none

theorem idxOf_hexDigit {d : Nat} (digit : d < 16) : hexDigits.idxOf (hexDigit d) = d := by
  revert d
  decide

theorem readUnit_hex4 {u : Nat} (unit : u < 0x10000) (rest : List Char) :
    readUnit ('\\' :: 'u' :: hex4 u ++ rest) = some (u, rest) := by
  have first := idxOf_hexDigit (Nat.mod_lt (u / 0x1000) (by decide : 0 < 16))
  have second := idxOf_hexDigit (Nat.mod_lt (u / 0x100) (by decide : 0 < 16))
  have third := idxOf_hexDigit (Nat.mod_lt (u / 0x10) (by decide : 0 < 16))
  have fourth := idxOf_hexDigit (Nat.mod_lt u (by decide : 0 < 16))
  simp only [hex4, List.cons_append, List.nil_append, readUnit, first, second, third, fourth,
    Option.some.injEq, Prod.mk.injEq, and_true]
  omega

theorem readUnit_plain {c : Char} (plain : c ≠ '\\') (rest : List Char) :
    readUnit (c :: rest) = some (c.toNat, rest) := by
  unfold readUnit
  split
  · rename_i same
    exact absurd (List.cons.inj same).1 plain
  · rename_i same
    exact absurd (List.cons.inj same).1 plain
  · rename_i same
    cases same
    rfl
  · rename_i same
    cases same

theorem readUnit_short {letter : Char} (short : letter ≠ 'u') (rest : List Char) :
    readUnit ('\\' :: letter :: rest) =
      (shortEscapes.find? fun escape => escape.2 = letter).map fun escape => (escape.1, rest) := by
  unfold readUnit
  split
  · rename_i same
    exact absurd (List.cons.inj (List.cons.inj same).2).1 short
  · rename_i same
    cases same
    rfl
  · rename_i other same
    cases same
    exact absurd rfl (other letter rest rfl)
  · rename_i same
    cases same

theorem toNat_ofNat_ascii {u : Nat} (ascii : u < 0x80) : (Char.ofNat u).toNat = u := by
  revert u
  decide

theorem readUnit_escapeUnit {u : Nat} (unit : u < 0x10000) (rest : List Char) :
    readUnit (escapeUnit u ++ rest) = some (u, rest) := by
  unfold escapeUnit
  split
  · rename_i letter found
    have letters : ∀ e ∈ shortEscapes, e.2 ≠ 'u' ∧
        shortEscapes.find? (fun escape => escape.2 = e.2) = some e := by decide
    obtain ⟨short, first⟩ := letters _ (Dict.mem_of_lookup found)
    rw [List.cons_append, List.singleton_append, readUnit_short short, first]
    rfl
  · rename_i absent
    split
    · rename_i printable
      have value := toNat_ofNat_ascii (Nat.lt_of_le_of_lt printable.2 (by decide))
      have plain : Char.ofNat u ≠ '\\' := by
        intro same
        rw [same] at value
        rw [← value] at absent
        exact absurd absent (by decide)
      rw [List.singleton_append, readUnit_plain plain, value]
    · exact readUnit_hex4 unit rest

theorem escapeUnit_avoids (u : Nat) : ∃ c t, escapeUnit u = c :: t ∧ c ≠ '"' := by
  unfold escapeUnit
  split
  · exact ⟨'\\', _, rfl, by decide⟩
  · rename_i absent
    split
    · rename_i printable
      have value := toNat_ofNat_ascii (Nat.lt_of_le_of_lt printable.2 (by decide))
      refine ⟨_, _, rfl, ?_⟩
      intro same
      rw [same] at value
      rw [← value] at absent
      exact absurd absent (by decide)
    · exact ⟨'\\', _, rfl, by decide⟩

theorem escapeUnit_cut {u v : Nat} (first : u < 0x10000) (second : v < 0x10000)
    {r s : List Char} (same : escapeUnit u ++ r = escapeUnit v ++ s) : u = v ∧ r = s := by
  have read := readUnit_escapeUnit first r
  rw [same, readUnit_escapeUnit second s] at read
  cases read
  exact ⟨rfl, rfl⟩

theorem not_surrogate (c : Char) : c.toNat < 0xD800 ∨ 0xE000 ≤ c.toNat ∧ c.toNat < 0x110000 := by
  rcases c.valid with low | ⟨high, bound⟩
  · exact .inl low
  · exact .inr ⟨high, bound⟩

theorem escapeChar_selfDelimiting : SelfDelimiting escapeChar := by
  intro x y r s same
  have validX := not_surrogate x
  have validY := not_surrogate y
  unfold escapeChar units at same
  by_cases basicX : x.toNat < 0x10000 <;> by_cases basicY : y.toNat < 0x10000
  · simp only [basicX, basicY, if_true, List.flatMap_cons, List.flatMap_nil,
      List.append_nil] at same
    obtain ⟨value, rest⟩ := escapeUnit_cut basicX basicY same
    exact ⟨Char.toNat_inj.mp value, rest⟩
  · simp only [basicX, basicY, if_true, if_false, List.flatMap_cons, List.flatMap_nil,
      List.append_nil, List.append_assoc] at same
    have value := (escapeUnit_cut basicX (by omega) same).1
    omega
  · simp only [basicX, basicY, if_true, if_false, List.flatMap_cons, List.flatMap_nil,
      List.append_nil, List.append_assoc] at same
    have value := (escapeUnit_cut (by omega) basicY same).1
    omega
  · simp only [basicX, basicY, if_false, List.flatMap_cons, List.flatMap_nil, List.append_nil,
      List.append_assoc] at same
    obtain ⟨high, same⟩ := escapeUnit_cut (by omega) (by omega) same
    obtain ⟨low, rest⟩ := escapeUnit_cut (by omega) (by omega) same
    refine ⟨Char.toNat_inj.mp ?_, rest⟩
    omega

theorem escapeChar_avoids : Avoids escapeChar '"' := by
  intro c
  unfold escapeChar units
  split
  · obtain ⟨first, t, word, other⟩ := escapeUnit_avoids c.toNat
    exact ⟨first, _, by rw [List.flatMap_cons, word]; rfl, other⟩
  · obtain ⟨first, t, word, other⟩ := escapeUnit_avoids (0xD800 + (c.toNat - 0x10000) / 0x400)
    exact ⟨first, _, by rw [List.flatMap_cons, word]; rfl, other⟩

theorem quoted_cut {a b : String} {r s : List Char} (same : quoted a ++ r = quoted b ++ s) :
    a = b ∧ r = s := by
  simp only [quoted, List.cons_append, List.append_assoc, List.nil_append, List.cons.injEq,
    true_and] at same
  obtain ⟨text, rest⟩ := flatMap_stop escapeChar_selfDelimiting escapeChar_avoids same
  exact ⟨String.toList_injective text, rest⟩

example : quoted "é\n😀" = "\"\\u00e9\\n\\ud83d\\ude00\"".toList := by decide +kernel

end Strings

/-- The characters numerals are made of. -/
def isNumeralChar (c : Char) : Bool := c.isDigit || ['.', 'e', '+', '-'].contains c

/-- The finite floats, with the sign that a zero has, too, and the text of each. Reading the text
    gives the float back. -/
structure Floats (F : Type) where
  value : F → ℚ
  negative : F → Bool
  distinct : ∀ x y, value x = value y → negative x = negative y → x = y
  repr : F → String
  readsBack : ∀ x y, repr x = repr y → x = y
  characters : ∀ x, ∀ c ∈ (repr x).toList, isNumeralChar c = true
  marked : ∀ x, '.' ∈ (repr x).toList ∨ 'e' ∈ (repr x).toList

inductive Scalar (F : Type) where
  | none
  | bool (b : Bool)
  | int (n : Int)
  | float (x : F)
  | str (s : String)
  deriving DecidableEq

section Scalars
variable {F : Type} (floats : Floats F)

/-- A scalar that is no string. -/
def plainText : Scalar F → List Char
  | .none => "null".toList
  | .bool true => "true".toList
  | .bool false => "false".toList
  | .int n => n.repr.toList
  | .float x => (floats.repr x).toList
  | .str _ => []

def scalarText : Scalar F → List Char
  | .str s => quoted s
  | v => plainText floats v

/-- What the text of a scalar other than a string is the text of. -/
def kindOf (text : List Char) : Nat :=
  if 'u' ∈ text then if 'n' ∈ text then 0 else 1
  else if 'f' ∈ text then 2
  else if '.' ∈ text ∨ 'e' ∈ text then 4
  else 3

def Scalar.kind : Scalar F → Nat
  | .none => 0
  | .bool true => 1
  | .bool false => 2
  | .int _ => 3
  | .float _ => 4
  | .str _ => 3

theorem nat_digits (m : Nat) {c : Char} (member : c ∈ m.repr.toList) : c.isDigit = true := by
  rw [Nat.toList_repr] at member
  exact Nat.isDigit_of_mem_toDigits (by decide) (by decide) member

theorem int_characters (n : Int) {c : Char} (member : c ∈ n.repr.toList) :
    c.isDigit = true ∨ c = '-' := by
  cases n with
  | ofNat m => exact .inl (nat_digits m member)
  | negSucc m =>
    rw [Int.repr, String.toList_append] at member
    rcases List.mem_append.mp member with sign | digit
    · exact .inr (List.mem_singleton.mp sign)
    · exact .inl (nat_digits _ digit)

theorem int_lacks (n : Int) {c : Char} (other : c.isDigit = false ∧ c ≠ '-') :
    c ∉ n.repr.toList := by
  intro member
  rcases int_characters n member with digit | sign
  · rw [other.1] at digit
    cases digit
  · exact other.2 sign

theorem float_lacks (x : F) {c : Char} (other : isNumeralChar c = false) :
    c ∉ (floats.repr x).toList := by
  intro member
  rw [floats.characters x c member] at other
  cases other

theorem scalarText_plain {v : Scalar F} (plain : ∀ s, v ≠ .str s) :
    scalarText floats v = plainText floats v := by
  cases v with
  | str s => exact absurd rfl (plain s)
  | none | bool | int | float => rfl

theorem kindOf_plainText {v : Scalar F} (plain : ∀ s, v ≠ .str s) :
    kindOf (plainText floats v) = v.kind := by
  cases v with
  | none =>
    show kindOf "null".toList = 0
    decide
  | bool b =>
    cases b with
    | true =>
      show kindOf "true".toList = 1
      decide
    | false =>
      show kindOf "false".toList = 2
      decide
  | int n =>
    have noU : 'u' ∉ n.repr.toList := int_lacks n (by decide)
    have noF : 'f' ∉ n.repr.toList := int_lacks n (by decide)
    have unmarked : ¬ ('.' ∈ n.repr.toList ∨ 'e' ∈ n.repr.toList) :=
      not_or.mpr ⟨int_lacks n (by decide), int_lacks n (by decide)⟩
    show kindOf n.repr.toList = 3
    rw [kindOf, if_neg noU, if_neg noF, if_neg unmarked]
  | float x =>
    have noU : 'u' ∉ (floats.repr x).toList := float_lacks floats x (by decide)
    have noF : 'f' ∉ (floats.repr x).toList := float_lacks floats x (by decide)
    show kindOf (floats.repr x).toList = 4
    rw [kindOf, if_neg noU, if_neg noF, if_pos (floats.marked x)]
  | str s => exact absurd rfl (plain s)

theorem plainText_injective {v w : Scalar F} (plainV : ∀ s, v ≠ .str s) (plainW : ∀ s, w ≠ .str s)
    (same : plainText floats v = plainText floats w) : v = w := by
  have kinds : v.kind = w.kind := by
    rw [← kindOf_plainText floats plainV, ← kindOf_plainText floats plainW, same]
  cases v with
  | none =>
    cases w with
    | none => rfl
    | bool b => cases b <;> cases kinds
    | int | float | str => cases kinds
  | bool b =>
    cases w with
    | none => cases b <;> cases kinds
    | bool b' => cases b <;> cases b' <;> first | rfl | cases kinds
    | int | float | str => cases b <;> cases kinds
  | int n =>
    cases w with
    | int m => rw [Int.repr_injective (String.toList_injective same)]
    | bool b => cases b <;> cases kinds
    | none | float => cases kinds
    | str s => exact absurd rfl (plainW s)
  | float x =>
    cases w with
    | float y => rw [floats.readsBack x y (String.toList_injective same)]
    | bool b => cases b <;> cases kinds
    | none | int | str => cases kinds
  | str s => exact absurd rfl (plainV s)

theorem plainText_lacks (v : Scalar F) {c : Char} (sign : c ∈ ['"', ',', '}']) :
    c ∉ plainText floats v := by
  have others : ∀ c ∈ ['"', ',', '}'], (c.isDigit = false ∧ c ≠ '-') ∧ isNumeralChar c = false ∧
      c ∉ "null".toList ∧ c ∉ "true".toList ∧ c ∉ "false".toList := by
    rw [List.forall_mem_cons, List.forall_mem_cons, List.forall_mem_singleton]
    decide
  obtain ⟨digits, numerals, null, yes, no⟩ := others c sign
  cases v with
  | none => exact null
  | bool b => cases b with
    | true => exact yes
    | false => exact no
  | int n => exact int_lacks n digits
  | float x => exact float_lacks floats x numerals
  | str s => exact List.not_mem_nil

theorem quoted_ne_plain (s : String) (v : Scalar F) {c : Char} (sep : c ∈ [',', '}'])
    (r t : List Char) : quoted s ++ r ≠ plainText floats v ++ c :: t := by
  intro same
  have absent := plainText_lacks floats v (c := '"') (by decide)
  cases text : plainText floats v with
  | nil =>
    rw [text] at same
    have first := (List.cons.inj same).1
    rw [← first] at sep
    exact absurd sep (by decide)
  | cons d rest =>
    rw [text] at same absent
    have first := (List.cons.inj same).1
    exact absent (first ▸ List.mem_cons_self)

theorem scalarText_cut {v w : Scalar F} {c : Char} (sep : c ∈ [',', '}']) {r s : List Char}
    (same : scalarText floats v ++ c :: r = scalarText floats w ++ c :: s) : v = w ∧ r = s := by
  have sign : c ∈ ['"', ',', '}'] := List.mem_cons_of_mem _ sep
  by_cases stringV : ∃ a, v = .str a <;> by_cases stringW : ∃ b, w = .str b
  · obtain ⟨a, rfl⟩ := stringV
    obtain ⟨b, rfl⟩ := stringW
    obtain ⟨rfl, rest⟩ := quoted_cut same
    exact ⟨rfl, (List.cons.inj rest).2⟩
  · obtain ⟨a, rfl⟩ := stringV
    rw [scalarText_plain floats (not_exists.mp stringW)] at same
    exact absurd same (quoted_ne_plain floats a w sep _ _)
  · obtain ⟨b, rfl⟩ := stringW
    rw [scalarText_plain floats (not_exists.mp stringV)] at same
    exact absurd same.symm (quoted_ne_plain floats b v sep _ _)
  · rw [scalarText_plain floats (not_exists.mp stringV),
      scalarText_plain floats (not_exists.mp stringW)] at same
    obtain ⟨text, rest⟩ := Delimited.append_sep_cancel (plainText_lacks floats v sign)
      (plainText_lacks floats w sign) same
    exact ⟨plainText_injective floats (not_exists.mp stringV) (not_exists.mp stringW) text, rest⟩

/-- What follows the first member of an object. -/
def membersText : List (String × Scalar F) → List Char
  | [] => ['}']
  | (key, v) :: rest =>
    ", ".toList ++ quoted key ++ ": ".toList ++ scalarText floats v ++ membersText rest

/-- `json.dumps` of an object, its members in this order. -/
def objectText : List (String × Scalar F) → List Char
  | [] => ['{', '}']
  | (key, v) :: rest =>
    '{' :: (quoted key ++ ": ".toList ++ scalarText floats v ++ membersText floats rest)

theorem membersText_separator {fs gs : List (String × Scalar F)}
    (keys : fs.map Prod.fst = gs.map Prod.fst) : ∃ c r s, c ∈ [',', '}'] ∧
      membersText floats fs = c :: r ∧ membersText floats gs = c :: s := by
  cases fs with
  | nil =>
    cases gs with
    | nil => exact ⟨'}', [], [], by decide, rfl, rfl⟩
    | cons g gs => cases keys
  | cons f fs =>
    cases gs with
    | nil => cases keys
    | cons g gs => exact ⟨',', _, _, by decide, rfl, rfl⟩

theorem value_cut {fs gs : List (String × Scalar F)} (keys : fs.map Prod.fst = gs.map Prod.fst)
    {v w : Scalar F} (same : scalarText floats v ++ membersText floats fs =
      scalarText floats w ++ membersText floats gs) :
    v = w ∧ membersText floats fs = membersText floats gs := by
  obtain ⟨c, r, s, sep, first, second⟩ := membersText_separator floats keys
  rw [first, second] at same ⊢
  obtain ⟨value, rest⟩ := scalarText_cut floats sep same
  exact ⟨value, by rw [rest]⟩

theorem membersText_injective {fs gs : List (String × Scalar F)}
    (keys : fs.map Prod.fst = gs.map Prod.fst)
    (same : membersText floats fs = membersText floats gs) : fs = gs := by
  induction fs generalizing gs with
  | nil =>
    cases gs with
    | nil => rfl
    | cons g gs => cases keys
  | cons f fs ih =>
    cases gs with
    | nil => cases keys
    | cons g gs =>
      obtain ⟨key, v⟩ := f
      obtain ⟨key', w⟩ := g
      obtain ⟨rfl, later⟩ := List.cons.inj keys
      simp only [membersText, List.append_assoc] at same
      have values :=
        List.append_cancel_left (List.append_cancel_left (List.append_cancel_left same))
      obtain ⟨rfl, rest⟩ := value_cut floats later values
      rw [ih later rest]

theorem objectText_injective {fs gs : List (String × Scalar F)}
    (keys : fs.map Prod.fst = gs.map Prod.fst)
    (same : objectText floats fs = objectText floats gs) : fs = gs := by
  cases fs with
  | nil =>
    cases gs with
    | nil => rfl
    | cons g gs => cases keys
  | cons f fs =>
    cases gs with
    | nil => cases keys
    | cons g gs =>
      obtain ⟨key, v⟩ := f
      obtain ⟨key', w⟩ := g
      obtain ⟨rfl, later⟩ := List.cons.inj keys
      simp only [objectText, List.cons.injEq, true_and, List.append_assoc] at same
      have values := List.append_cancel_left (List.append_cancel_left same)
      obtain ⟨rfl, rest⟩ := value_cut floats later values
      rw [membersText_injective floats later rest]

end Scalars

end Json
