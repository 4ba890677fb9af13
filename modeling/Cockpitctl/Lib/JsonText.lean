import Cockpitctl.Lib.Encode
import Cockpitctl.Lib.SelfDelimiting
import Cockpitctl.Lib.Text

/-!
# The compact text of a document

Documents are written without whitespace, an object with its members in order. In strings, quotes,
backslashes and control characters are escaped, and everything else stands for itself. How floats
are written is left open; a document without floats is determined by its text.

## Main definitions

* `Json.escapeChar`, `Json.quoted`: escaped characters and quoted strings
* `Json.compact`: the text of a document
* `Json.plain`: no part of the document is a float or only skippable

## Main results

* `readEscaped_escapeChar`: escaped characters are read back
* `compact_delimits`: the text of a plain document is told from what follows it
* `compact_injective`: plain documents with one text are equal
-/

namespace Json

open SelfDelimiting

/-! ## Strings -/

/-- The character of a hexadecimal digit has its value. -/
def hexValue (c : Char) : ℕ := if c.isDigit then c.toNat - '0'.toNat else c.toNat - 'a'.toNat + 10

/-- How a character is written in a string: the short escapes, the escapes of the other control
characters, and the character itself. -/
def escapeChar (c : Char) : List Char :=
  if c = '"' then ['\\', '"']
  else if c = '\\' then ['\\', '\\']
  else if c = Char.ofNat 0x08 then ['\\', 'b']
  else if c = '\t' then ['\\', 't']
  else if c = '\n' then ['\\', 'n']
  else if c = Char.ofNat 0x0c then ['\\', 'f']
  else if c = '\r' then ['\\', 'r']
  else if c.toNat < 0x20 then
    ['\\', 'u', '0', '0', Nat.digitChar (c.toNat / 16), Nat.digitChar (c.toNat % 16)]
  else [c]

/-- Read an escaped character, and what follows it. -/
def readEscaped : List Char → Option (Char × List Char)
  | '\\' :: 'u' :: '0' :: '0' :: high :: low :: rest =>
    some (Char.ofNat (16 * hexValue high + hexValue low), rest)
  | '\\' :: 'b' :: rest => some (Char.ofNat 0x08, rest)
  | '\\' :: 't' :: rest => some ('\t', rest)
  | '\\' :: 'n' :: rest => some ('\n', rest)
  | '\\' :: 'f' :: rest => some (Char.ofNat 0x0c, rest)
  | '\\' :: 'r' :: rest => some ('\r', rest)
  | '\\' :: c :: rest => some (c, rest)
  | c :: rest => some (c, rest)
  | [] => none

/-- The text of a string, in quotes. -/
def quoted (s : String) : List Char := '"' :: (s.toList.flatMap escapeChar ++ ['"'])

example : quoted "a\"\n\x01" = "\"a\\\"\\n\\u0001\"".toList := by decide

theorem hexValue_digitChar {n : ℕ} (h : n < 16) : hexValue (Nat.digitChar n) = n := by
  have hall : ∀ k < 16, hexValue (Nat.digitChar k) = k := by decide
  exact hall n h

/-- **Escaped characters are read back.** -/
theorem readEscaped_escapeChar (c : Char) (rest : List Char) :
    readEscaped (escapeChar c ++ rest) = some (c, rest) := by
  unfold escapeChar
  split_ifs with hquote hbackslash hb ht hn hf hr hcontrol
  · rw [hquote]; rfl
  · rw [hbackslash]; rfl
  · rw [hb]; rfl
  · rw [ht]; rfl
  · rw [hn]; rfl
  · rw [hf]; rfl
  · rw [hr]; rfl
  · -- A control character is the number of its two digits.
    have hhigh := hexValue_digitChar (n := c.toNat / 16) (by omega)
    have hlow := hexValue_digitChar (n := c.toNat % 16) (by omega)
    show some (Char.ofNat (16 * hexValue (Nat.digitChar (c.toNat / 16)) +
      hexValue (Nat.digitChar (c.toNat % 16))), rest) = some (c, rest)
    rw [hhigh, hlow, Nat.div_add_mod, Char.ofNat_toNat]
  · -- Any other character is not a backslash, and is read as it is.
    rw [List.singleton_append]
    unfold readEscaped
    split <;> simp_all

/-- No escaped character starts with a quote. -/
theorem escapeChar_eq_cons (c : Char) : ∃ a t, escapeChar c = a :: t ∧ a ≠ '"' := by
  unfold escapeChar
  split_ifs with hquote
  all_goals first
    | exact ⟨'\\', _, rfl, by decide⟩
    | exact ⟨c, [], rfl, hquote⟩

/-- **Strings in quotes** are told from what follows them. -/
theorem quoted_append_inj {s s' : String} {rest rest' : List Char}
    (h : quoted s ++ rest = quoted s' ++ rest') : s = s' ∧ rest = rest' := by
  -- The reader of one character tells it from what follows.
  have hchar : ∀ c, Delimits (fun _ => True) (fun _ => True) escapeChar c := by
    intro c c' _ rest rest' _ _ h
    have hread := congrArg readEscaped h
    rw [readEscaped_escapeChar, readEscaped_escapeChar] at hread
    cases hread
    exact ⟨rfl, rfl⟩
  have hchars : joined [] escapeChar true s.toList ++ '"' :: rest =
      joined [] escapeChar true s'.toList ++ '"' :: rest' := by
    rw [joined_nil, joined_nil]
    simpa [quoted] using h
  obtain ⟨hlists, hrests⟩ := joined_append_inj (by simp) (fun c _ => escapeChar_eq_cons c)
    (fun _ _ _ => trivial) (fun c _ => ⟨trivial, hchar c⟩) (fun _ _ => trivial) hchars
  exact ⟨String.toList_inj.mp hlists, hrests⟩

/-! ## Numbers -/

/-- The characters of an integer's text. -/
def isNumeral (c : Char) : Bool := c.isDigit || c == '-'

theorem toList_toString_int (n : ℤ) : (toString n).toList =
    if 0 ≤ n then (toString n.toNat).toList else '-' :: (toString (-n).toNat).toList := by
  rw [Int.toString_eq_repr, Int.repr_eq_if, Nat.toString_eq_repr, Nat.toString_eq_repr]
  split_ifs
  · rfl
  · rw [String.toList_append]
    rfl

theorem isNumeral_of_mem_toString {n : ℤ} {c : Char} (hc : c ∈ (toString n).toList) :
    isNumeral c = true := by
  have hdigit : ∀ m : ℕ, c ∈ (toString m).toList → isNumeral c = true := fun m hm => by
    rw [isNumeral, Text.isDigit_of_mem_toString hm, Bool.true_or]
  rw [toList_toString_int] at hc
  split_ifs at hc
  · exact hdigit _ hc
  · rcases List.mem_cons.mp hc with rfl | hc
    · rfl
    · exact hdigit _ hc

theorem toString_int_ne_nil (n : ℤ) : (toString n).toList ≠ [] := by
  rw [toList_toString_int]
  split_ifs
  · rw [Nat.toString_eq_repr, Nat.toList_repr]
    exact Nat.toDigits_ne_nil
  · exact List.cons_ne_nil _ _

/-- Integers are determined by their text. -/
theorem toString_int_injective : Function.Injective fun n : ℤ => (toString n).toList := by
  -- A sign is no digit, so only integers of one sign have the same text.
  have hsign : ∀ m k : ℕ, (toString m).toList ≠ '-' :: (toString k).toList := fun m k h => by
    have hmem : '-' ∈ (toString m).toList := h ▸ List.mem_cons_self
    exact absurd (Text.isDigit_of_mem_toString hmem) (by decide)
  have hnat : ∀ m k : ℕ, (toString m).toList = (toString k).toList → m = k := fun m k h =>
    Text.toString_nat_injective (String.toList_inj.mp h)
  intro m n h
  simp only [toList_toString_int] at h
  split_ifs at h with hm hn hn
  · have hvalue := hnat _ _ h
    omega
  · exact absurd h (hsign _ _)
  · exact absurd h.symm (hsign _ _)
  · have hvalue := hnat _ _ (List.cons.inj h).2
    omega

/-! ## Documents -/

/-- The text of a number, with the given text for floats. -/
def numberText (float : ℚ → List Char) : Number → List Char
  | .integer n _ => (toString n).toList
  | .float q => float q

mutual
/-- The compact text of a document. -/
def compact (float : ℚ → List Char) : Json → List Char
  | null => "null".toList
  | bool b => if b then "true".toList else "false".toList
  | number n => numberText float n
  | string s => quoted s
  | array items => '[' :: (compactItems float true items ++ [']'])
  | object members => '{' :: (compactMembers float true members ++ ['}'])
  | skippable => []
termination_by structural j => j

/-- The text of items, with a comma in front of all but the first. -/
def compactItems (float : ℚ → List Char) : Bool → List Json → List Char
  | _, [] => []
  | first, j :: js =>
    (if first then [] else [',']) ++ (compact float j ++ compactItems float false js)
termination_by structural _ js => js

/-- The text of members, with a comma in front of all but the first. -/
def compactMembers (float : ℚ → List Char) : Bool → List (String × Json) → List Char
  | _, [] => []
  | first, (k, j) :: ms =>
    (if first then [] else [',']) ++
      (quoted k ++ ':' :: compact float j ++ compactMembers float false ms)
termination_by structural _ ms => ms
end

/-- The number is not a float. -/
def isInteger : Number → Bool
  | .integer .. => true
  | .float _ => false

mutual
/-- No part of the document is a float or only skippable. -/
def plain : Json → Bool
  | number n => isInteger n
  | array items => plainItems items
  | object members => plainMembers members
  | skippable => false
  | null | bool _ | string _ => true
termination_by structural j => j

/-- Every item is plain. -/
def plainItems : List Json → Bool
  | [] => true
  | j :: js => plain j && plainItems js
termination_by structural js => js

/-- Every member is plain. -/
def plainMembers : List (String × Json) → Bool
  | [] => true
  | (_, j) :: ms => plain j && plainMembers ms
termination_by structural ms => ms
end

example : compact (fun _ => []) (object [("a", array [null, bool true]), ("b", string "\t")]) =
    "\x7b\"a\":[null,true],\"b\":\"\\t\"\x7d".toList := by decide

@[simp] theorem plain_bool (b : Bool) : plain (bool b) = true := rfl

@[simp] theorem plain_string (s : String) : plain (string s) = true := rfl

@[simp] theorem plain_number (n : Number) : plain (number n) = isInteger n := rfl

theorem plainItems_iff {js : List Json} : plainItems js = true ↔ ∀ j ∈ js, plain j = true := by
  induction js with
  | nil => simp [plainItems]
  | cons j js ih => simp [plainItems, ih]

theorem plainMembers_iff {ms : List (String × Json)} :
    plainMembers ms = true ↔ ∀ m ∈ ms, plain m.2 = true := by
  induction ms with
  | nil => simp [plainMembers]
  | cons m ms ih => simp [plainMembers, ih]

/-- A record of plain fields is plain. -/
theorem plain_record {fields : List (String × Option Json)}
    (hj : ∀ f ∈ fields, ∀ j ∈ f.2, plain j = true) : plain (record fields) = true := by
  refine plainMembers_iff.mpr fun m hm => ?_
  exact hj _ (mem_recordMembers_iff.mp hm) m.2 rfl

theorem plain_array_map {α : Type} {encode : α → Json} {l : List α}
    (h : ∀ a ∈ l, plain (encode a) = true) : plain (array (l.map encode)) = true :=
  plainItems_iff.mpr (List.forall_mem_map.mpr h)

theorem isInteger_of_ofNat? {n : ℕ} {number : Number} (h : Number.ofNat? n = some number) :
    isInteger number = true := by
  unfold Number.ofNat? at h
  split_ifs at h
  cases h
  rfl

section Compact

variable {float : ℚ → List Char}

/-- The text of a member. -/
def memberText (float : ℚ → List Char) (m : String × Json) : List Char :=
  quoted m.1 ++ ':' :: compact float m.2

theorem compactItems_eq_joined (first : Bool) (js : List Json) :
    compactItems float first js = joined [','] (compact float) first js := by
  induction js generalizing first with
  | nil => rfl
  | cons j js ih => rw [compactItems, joined, ih]

theorem compactMembers_eq_joined (first : Bool) (ms : List (String × Json)) :
    compactMembers float first ms = joined [','] (memberText float) first ms := by
  induction ms generalizing first with
  | nil => rfl
  | cons m ms ih => rw [compactMembers, joined, ih, memberText]

/-- A character that starts documents of the same kind: one for all numbers, and one for both truth
values. -/
def startOf (c : Char) : Char := if isNumeral c then '-' else if c = 'f' then 't' else c

/-- The character that stands for how documents of a kind start. -/
def start : Json → Char
  | null => 'n'
  | bool _ => 't'
  | number _ => '-'
  | string _ => '"'
  | array _ => '['
  | object _ => '{'
  | skippable => ' '

/-- What starts a document tells its kind. -/
theorem compact_eq_cons (float : ℚ → List Char) {j : Json} (h : plain j = true) :
    ∃ c t, compact float j = c :: t ∧ startOf c = start j := by
  cases j using Json.casesOn with
  | null => exact ⟨'n', _, rfl, rfl⟩
  | bool b => cases b with
    | true => exact ⟨'t', _, rfl, rfl⟩
    | false => exact ⟨'f', _, rfl, rfl⟩
  | number n => cases n with
    | integer n hrange =>
      obtain ⟨c, t, hn⟩ := List.exists_cons_of_ne_nil (toString_int_ne_nil n)
      have hc : c ∈ (toString n).toList := hn ▸ List.mem_cons_self
      exact ⟨c, t, hn, if_pos (isNumeral_of_mem_toString hc)⟩
    | float q => exact absurd h Bool.false_ne_true
  | string s => exact ⟨'"', _, rfl, rfl⟩
  | array items => exact ⟨'[', _, rfl, rfl⟩
  | object members => exact ⟨'{', _, rfl, rfl⟩
  | skippable => exact absurd h Bool.false_ne_true

/-- Documents with texts that start alike are of one kind. -/
theorem start_eq_of_append {j j' : Json} (hj : plain j = true) (hj' : plain j' = true)
    {rest rest' : List Char} (h : compact float j ++ rest = compact float j' ++ rest') :
    start j = start j' := by
  obtain ⟨c, t, htext, hstart⟩ := compact_eq_cons float hj
  obtain ⟨c', t', htext', hstart'⟩ := compact_eq_cons float hj'
  rw [htext, htext'] at h
  rw [← hstart, ← hstart', (List.cons.inj h).1]

/-- What may follow a document: nothing that goes on with a number. -/
def Follows (rest : List Char) : Prop := ∀ c ∈ rest.head?, isNumeral c = false

/-- Integers are told from what follows them, which does not go on with a number. -/
theorem number_append_inj {n n' : Number} {rest rest' : List Char} (h : isInteger n = true)
    (h' : isInteger n' = true) (hrest : Follows rest) (hrest' : Follows rest')
    (htext : numberText float n ++ rest = numberText float n' ++ rest') :
    n = n' ∧ rest = rest' := by
  cases n with
  | float q => exact absurd h Bool.false_ne_true
  | integer n hrange =>
    cases n' with
    | float q => exact absurd h' Bool.false_ne_true
    | integer n' hrange' =>
      obtain ⟨hwords, hrests⟩ := append_inj_of_forall (p := fun c => isNumeral c = true)
        (fun c => isNumeral_of_mem_toString) (fun c => isNumeral_of_mem_toString)
        (fun c hc => by simp [hrest c hc]) (fun c hc => by simp [hrest' c hc]) htext
      obtain rfl := toString_int_injective hwords
      exact ⟨rfl, hrests⟩

/-- What comes behind the text of a part, up to the bracket that closes the sequence, may follow
that text. -/
theorem follows_joined {β : Type} {code : β → List Char} {close : Char}
    (hclose : isNumeral close = false) (l : List β) (rest : List Char) :
    Follows (joined [','] code false l ++ close :: rest) := by
  cases l with
  | nil => intro c hc; cases hc; exact hclose
  | cons b l => intro c hc; cases hc; rfl

/-- The items of an array are told from what follows the array. -/
theorem items_append_inj {items items' : List Json} {rest rest' : List Char}
    (h : ∀ j ∈ items, plain j = true ∧
      Delimits (fun j => plain j = true) Follows (compact float) j)
    (h' : plainItems items' = true)
    (htext : compact float (array items) ++ rest = compact float (array items') ++ rest') :
    items = items' ∧ rest = rest' := by
  have hjoined : joined [','] (compact float) true items ++ ']' :: rest =
      joined [','] (compact float) true items' ++ ']' :: rest' := by
    simpa [compact, compactItems_eq_joined] using htext
  refine joined_append_inj (by simp) (fun j hj => ?_) (fun l _ => follows_joined rfl l) h
    (plainItems_iff.mp h') hjoined
  -- A bracket that closes starts no document.
  obtain ⟨c, t, hc, hstart⟩ := compact_eq_cons float hj
  refine ⟨c, t, hc, ?_⟩
  rintro rfl
  cases j using Json.casesOn <;> exact absurd hstart (by simp [start, startOf, isNumeral])

/-- The members of an object are told from what follows the object. -/
theorem members_append_inj {members members' : List (String × Json)} {rest rest' : List Char}
    (h : ∀ m ∈ members, plain m.2 = true ∧
      Delimits (fun j => plain j = true) Follows (compact float) m.2)
    (h' : plainMembers members' = true)
    (htext : compact float (object members) ++ rest = compact float (object members') ++ rest') :
    members = members' ∧ rest = rest' := by
  have hjoined : joined [','] (memberText float) true members ++ '}' :: rest =
      joined [','] (memberText float) true members' ++ '}' :: rest' := by
    simpa [compact, compactMembers_eq_joined] using htext
  have hmember : ∀ m ∈ members, plain m.2 = true ∧ Delimits
      (fun m : String × Json => plain m.2 = true) Follows (memberText float) m := by
    intro m hm
    refine ⟨(h m hm).1, fun m' hm' rest rest' hrest hrest' heq => ?_⟩
    -- The key is read off first, then the colon, then the value.
    simp only [memberText, List.append_assoc] at heq
    obtain ⟨hkey, hvalue⟩ := quoted_append_inj heq
    obtain ⟨hvalue, hrests⟩ := (h m hm).2 m'.2 hm' rest rest' hrest hrest' (List.cons.inj hvalue).2
    exact ⟨Prod.ext hkey hvalue, hrests⟩
  exact joined_append_inj (by simp) (fun m _ => ⟨'"', _, rfl, by decide⟩)
    (fun l _ => follows_joined rfl l) hmember (plainMembers_iff.mp h') hjoined

/-- **The text of a plain document** is told from what follows it. -/
theorem compact_delimits {j : Json} (h : plain j = true) :
    Delimits (fun j => plain j = true) Follows (compact float) j := by
  intro j' hj' rest rest' hrest hrest' htext
  -- Documents of different kinds start with different characters.
  have hstart := start_eq_of_append h hj' htext
  induction j generalizing j' rest rest' with
  | null =>
    cases j' using Json.casesOn
    case null => exact ⟨rfl, List.append_cancel_left htext⟩
    all_goals simp [start] at hstart
  | bool b =>
    cases j' using Json.casesOn
    case bool b' =>
      cases b <;> cases b'
      · exact ⟨rfl, List.append_cancel_left htext⟩
      · exact absurd (List.cons.inj htext).1 (by decide)
      · exact absurd (List.cons.inj htext).1 (by decide)
      · exact ⟨rfl, List.append_cancel_left htext⟩
    all_goals simp [start] at hstart
  | number n =>
    cases j' using Json.casesOn
    case number n' =>
      obtain ⟨rfl, hrests⟩ := number_append_inj h hj' hrest hrest' htext
      exact ⟨rfl, hrests⟩
    all_goals simp [start] at hstart
  | string s =>
    cases j' using Json.casesOn
    case string s' =>
      obtain ⟨rfl, hrests⟩ := quoted_append_inj htext
      exact ⟨rfl, hrests⟩
    all_goals simp [start] at hstart
  | array items ih =>
    cases j' using Json.casesOn
    case array items' =>
      have hitems := plainItems_iff.mp h
      obtain ⟨rfl, hrests⟩ := items_append_inj (fun j hj => ⟨hitems j hj,
        fun j' hj' rest rest' hrest hrest' htext => ih j hj (hitems j hj) j' hj' rest rest' hrest
          hrest' htext (start_eq_of_append (hitems j hj) hj' htext)⟩) hj' htext
      exact ⟨rfl, hrests⟩
    all_goals simp [start] at hstart
  | object members ih =>
    cases j' using Json.casesOn
    case object members' =>
      have hmembers := plainMembers_iff.mp h
      obtain ⟨rfl, hrests⟩ := members_append_inj (fun m hm => ⟨hmembers m hm,
        fun j' hj' rest rest' hrest hrest' htext => ih m hm (hmembers m hm) j' hj' rest rest' hrest
          hrest' htext (start_eq_of_append (hmembers m hm) hj' htext)⟩) hj' htext
      exact ⟨rfl, hrests⟩
    all_goals simp [start] at hstart
  | skippable => exact absurd h Bool.false_ne_true

/-- **Plain documents** are determined by their text. -/
theorem compact_injective {j j' : Json} (h : plain j = true) (h' : plain j' = true)
    (htext : compact float j = compact float j') : j = j' := by
  have hnil : compact float j ++ [] = compact float j' ++ [] := by rw [htext]
  exact (compact_delimits h j' h' [] [] nofun nofun hnil).1

end Compact

end Json
