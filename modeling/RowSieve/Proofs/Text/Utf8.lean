import Mathlib.Algebra.Group.Nat.Defs
import Mathlib.Data.List.Induction
import RowSieve.Value

/-!
# Texts in UTF-8

A character is spelled by one to four bytes.  The first byte marks the form and holds the high part
of the code point, and each byte that continues it holds six bits more.  Bytes that spell no text
begin like one, perhaps an empty one, and then break off in one of six ways.
-/

namespace RowSieve
namespace Utf8

/-!
## Spelling
-/

/-- The forms of characters, named by the number of their bytes. -/
inductive Form
  | one
  | two
  | three
  | four

namespace Form

/-- The number of bytes after the first. -/
def more : Form → Nat
  | .one => 0
  | .two => 1
  | .three => 2
  | .four => 3

def mark : Form → Nat
  | .one => 0
  | .two => 0xC0
  | .three => 0xE0
  | .four => 0xF0

/-- How many high parts the first byte can hold. -/
def room : Form → Nat
  | .one => 0x80
  | .two => 0x20
  | .three => 0x10
  | .four => 0x08

/-- The first code point that no shorter form can spell. -/
def least : Form → Nat
  | .one => 0
  | .two => 0x80
  | .three => 0x800
  | .four => 0x10000

/-- The first code point that the form cannot spell. -/
def limit (form : Form) : Nat :=
  form.room * 0x40 ^ form.more

def lead (form : Form) (high : Nat) : UInt8 :=
  .ofNat (form.mark + high)

/-- The shortest form for a code point. -/
def ofCode (code : Nat) : Form :=
  if code < 0x80 then .one
  else if code < 0x800 then .two
  else if code < 0x10000 then .three
  else .four

end Form

/-- The last digits of a code point to the base 64, each in a byte that continues a character. -/
def digits : Nat → Nat → Bytes
  | 0, _ => []
  | count + 1, code => digits count (code / 0x40) ++ [.ofNat (0x80 + code % 0x40)]

def spell (form : Form) (code : Nat) : Bytes :=
  form.lead (code / 0x40 ^ form.more) :: digits form.more code

def encodeChar (c : Char) : Bytes :=
  spell (.ofCode c.toNat) c.toNat

def encode (text : String) : Bytes :=
  text.toList.flatMap encodeChar

/-- The byte can stand in a character after the first. -/
def Continues (byte : UInt8) : Prop :=
  0x80 ≤ byte.toNat ∧ byte.toNat < 0xC0

instance (byte : UInt8) : Decidable (Continues byte) :=
  inferInstanceAs (Decidable (0x80 ≤ byte.toNat ∧ byte.toNat < 0xC0))

/-- The bytes do not begin with a character. -/
inductive Broken : Bytes → Prop
  /-- The first byte continues a character, but there is none. -/
  | stray {byte : UInt8} {rest : Bytes} (continues : Continues byte) : Broken (byte :: rest)
  /-- The first byte marks no form. -/
  | unmarked {byte : UInt8} {rest : Bytes} (high : 0xF8 ≤ byte.toNat) : Broken (byte :: rest)
  /-- The first byte is continued by fewer bytes than it should be. -/
  | missing {form : Form} {high : Nat} {tail rest : Bytes}
      (fits : high < form.room) (continues : ∀ byte ∈ tail, Continues byte)
      (few : tail.length < form.more) (ends : ∀ byte ∈ rest.head?, ¬ Continues byte) :
      Broken (form.lead high :: (tail ++ rest))
  /-- The code point has a shorter form. -/
  | overlong {form : Form} {code : Nat} {rest : Bytes} (short : code < form.least) :
      Broken (spell form code ++ rest)
  /-- The code point is half of a pair in another encoding. -/
  | surrogate {code : Nat} {rest : Bytes} (low : 0xD800 ≤ code) (high : code ≤ 0xDFFF) :
      Broken (spell .three code ++ rest)
  /-- There is no such code point. -/
  | beyond {code : Nat} {rest : Bytes} (high : 0x10FFFF < code) (fits : code < Form.four.limit) :
      Broken (spell .four code ++ rest)

/-- After a text, perhaps an empty one, no further character begins where there still are bytes. -/
def Malformed (bytes : Bytes) : Prop :=
  ∃ text rest, bytes = encode text ++ rest ∧ Broken rest

/-!
## Digits

Bytes that continue a character are digits, whichever they are.
-/

theorem length_digits (count code : Nat) : (digits count code).length = count := by
  induction count generalizing code with
  | zero => rfl
  | succ count ih => rw [digits, List.length_append, ih, List.length_singleton]

theorem toNat_digit (digit : Nat) :
    (UInt8.ofNat (0x80 + digit % 0x40)).toNat = 0x80 + digit % 0x40 := by
  rw [UInt8.toNat_ofNat']
  omega

theorem continues_of_mem_digits {count code : Nat} {byte : UInt8}
    (hbyte : byte ∈ digits count code) : Continues byte := by
  induction count generalizing code with
  | zero => cases hbyte
  | succ count ih =>
      rcases List.mem_append.mp hbyte with hhigh | hlast
      · exact ih hhigh
      · rw [List.mem_singleton.mp hlast, Continues, toNat_digit]
        omega

theorem digits_eq_iff {count left right : Nat} :
    digits count left = digits count right ↔ left % 0x40 ^ count = right % 0x40 ^ count := by
  induction count generalizing left right with
  | zero => simp [digits, Nat.mod_one]
  | succ count ih =>
      have hlast : UInt8.ofNat (0x80 + left % 0x40) = .ofNat (0x80 + right % 0x40) ↔
          left % 0x40 = right % 0x40 := by
        rw [← UInt8.toNat_inj, toNat_digit, toNat_digit]
        omega
      rw [digits, digits, List.append_singleton_inj, ih, hlast, Nat.pow_succ', Nat.mod_mul,
        Nat.mod_mul]
      omega

theorem exists_digits {tail : Bytes} (hcontinues : ∀ byte ∈ tail, Continues byte) :
    ∃ code, code < 0x40 ^ tail.length ∧ tail = digits tail.length code := by
  -- the last byte holds the lowest digit, so the bytes are taken off from the end
  induction tail using List.reverseRecOn with
  | nil => exact ⟨0, by decide, rfl⟩
  | append_singleton tail byte ih =>
      rcases ih fun byte hbyte => hcontinues byte (List.mem_append_left _ hbyte) with
        ⟨code, hcode, htail⟩
      have hbyte : Continues byte := hcontinues byte (by simp)
      rw [Continues] at hbyte
      refine ⟨code * 0x40 + (byte.toNat - 0x80), ?_, ?_⟩
      · rw [List.length_append, List.length_singleton, Nat.pow_succ]
        omega
      · have hhigh : (code * 0x40 + (byte.toNat - 0x80)) / 0x40 = code := by omega
        have hlow : 0x80 + (code * 0x40 + (byte.toNat - 0x80)) % 0x40 = byte.toNat := by omega
        rw [List.length_append, List.length_singleton, digits, hhigh, hlow, ← htail,
          UInt8.ofNat_toNat]

/-!
## First bytes

A first byte tells the form and the high part.  Every byte is one unless it continues a character or
marks no form.
-/

theorem toNat_lead {form : Form} {high : Nat} (hhigh : high < form.room) :
    (form.lead high).toNat = form.mark + high := by
  rw [Form.lead, UInt8.toNat_ofNat']
  cases form <;> simp only [Form.room, Form.mark] at hhigh ⊢ <;> omega

theorem lead_inj {left right : Form} {high other : Nat} (hhigh : high < left.room)
    (hother : other < right.room) (hlead : left.lead high = right.lead other) :
    left = right ∧ high = other := by
  rw [← UInt8.toNat_inj, toNat_lead hhigh, toNat_lead hother] at hlead
  cases left <;> cases right <;> simp only [Form.room, Form.mark] at hhigh hother hlead <;>
    first | omega | exact ⟨rfl, by omega⟩

theorem not_continues_lead {form : Form} {high : Nat} (hhigh : high < form.room) :
    ¬ Continues (form.lead high) := by
  rw [Continues, toNat_lead hhigh]
  cases form <;> simp only [Form.room, Form.mark] at hhigh ⊢ <;> omega

theorem lead_lt {form : Form} {high : Nat} (hhigh : high < form.room) :
    (form.lead high).toNat < 0xF8 := by
  rw [toNat_lead hhigh]
  cases form <;> simp only [Form.room, Form.mark] at hhigh ⊢ <;> omega

theorem exists_lead_of_room {byte : UInt8} (form : Form) (hmark : form.mark ≤ byte.toNat)
    (hroom : byte.toNat < form.mark + form.room) :
    ∃ (form : Form) (high : Nat), high < form.room ∧ byte = form.lead high := by
  refine ⟨form, byte.toNat - form.mark, by omega, ?_⟩
  rw [Form.lead, Nat.add_sub_cancel' hmark, UInt8.ofNat_toNat]

theorem exists_lead {byte : UInt8} (hstray : ¬ Continues byte) (hmarked : byte.toNat < 0xF8) :
    ∃ (form : Form) (high : Nat), high < form.room ∧ byte = form.lead high := by
  rw [Continues] at hstray
  by_cases hone : byte.toNat < 0x80
  · exact exists_lead_of_room .one (Nat.zero_le _) (by rw [Form.mark, Form.room]; omega)
  by_cases htwo : byte.toNat < 0xE0
  · exact exists_lead_of_room .two (by rw [Form.mark]; omega) (by rw [Form.mark, Form.room]; omega)
  by_cases hthree : byte.toNat < 0xF0
  · exact exists_lead_of_room .three (by rw [Form.mark]; omega)
      (by rw [Form.mark, Form.room]; omega)
  · exact exists_lead_of_room .four (by rw [Form.mark]; omega) (by rw [Form.mark, Form.room]; omega)

/-!
## Characters

What begins with a character begins with one only, and in one form only.
-/

theorem high_lt_room {form : Form} {code : Nat} (hcode : code < form.limit) :
    code / 0x40 ^ form.more < form.room := by
  rw [Form.limit] at hcode
  exact Nat.div_lt_of_lt_mul (Nat.mul_comm _ _ ▸ hcode)

theorem exists_spell {form : Form} {high : Nat} {tail : Bytes} (hhigh : high < form.room)
    (hcontinues : ∀ byte ∈ tail, Continues byte) (hlength : tail.length = form.more) :
    ∃ code, code < form.limit ∧ form.lead high :: tail = spell form code := by
  rcases exists_digits hcontinues with ⟨low, hlow, htail⟩
  rw [hlength] at hlow htail
  have hpositive : 0 < 0x40 ^ form.more := Nat.pow_pos (by decide)
  refine ⟨high * 0x40 ^ form.more + low, ?_, ?_⟩
  · calc high * 0x40 ^ form.more + low
      _ < high * 0x40 ^ form.more + 0x40 ^ form.more := Nat.add_lt_add_left hlow _
      _ = (high + 1) * 0x40 ^ form.more := (Nat.succ_mul _ _).symm
      _ ≤ form.limit := Nat.mul_le_mul_right _ hhigh
  · have hparts : (high * 0x40 ^ form.more + low) / 0x40 ^ form.more = high := by
      rw [Nat.mul_comm, Nat.mul_add_div hpositive, Nat.div_eq_of_lt hlow, Nat.add_zero]
    have hdigits : digits form.more (high * 0x40 ^ form.more + low) = digits form.more low := by
      rw [digits_eq_iff, Nat.mul_comm, Nat.mul_add_mod]
    rw [spell, hparts, hdigits, ← htail]

theorem spell_append_inj {left right : Form} {code other : Nat} {rest more : Bytes}
    (hcode : code < left.limit) (hother : other < right.limit)
    (hsame : spell left code ++ rest = spell right other ++ more) :
    left = right ∧ code = other ∧ rest = more := by
  rw [spell, spell, List.cons_append, List.cons_append, List.cons.injEq] at hsame
  rcases hsame with ⟨hlead, htail⟩
  rcases lead_inj (high_lt_room hcode) (high_lt_room hother) hlead with ⟨hform, hhigh⟩
  cases hform
  rcases List.append_inj htail (by rw [length_digits, length_digits]) with ⟨hdigits, hrest⟩
  refine ⟨rfl, ?_, hrest⟩
  rw [← Nat.div_add_mod code (0x40 ^ left.more), ← Nat.div_add_mod other (0x40 ^ left.more),
    hhigh, digits_eq_iff.mp hdigits]

/-- A character is spelled in the one form that has room for it where no shorter form has. -/
theorem ofCode_eq_iff {form : Form} {code : Nat} (hcode : code < Form.four.limit) :
    Form.ofCode code = form ↔ form.least ≤ code ∧ code < form.limit := by
  rw [Form.limit] at hcode ⊢
  rw [Form.ofCode]
  split_ifs <;> cases form <;>
    simp only [Form.room, Form.more, Form.least, reduceCtorEq, false_iff, true_iff] at hcode ⊢ <;>
    omega

theorem toNat_cases (c : Char) : c.toNat < 0xD800 ∨ 0xDFFF < c.toNat ∧ c.toNat < 0x110000 :=
  c.valid

theorem toNat_lt_limit (c : Char) : c.toNat < Form.four.limit := by
  have hvalid := toNat_cases c
  show c.toNat < 0x200000
  omega

theorem fits_ofCode (c : Char) :
    (Form.ofCode c.toNat).least ≤ c.toNat ∧ c.toNat < (Form.ofCode c.toNat).limit :=
  (ofCode_eq_iff (toNat_lt_limit c)).mp rfl

theorem encodeChar_append_inj {c d : Char} {rest more : Bytes}
    (hsame : encodeChar c ++ rest = encodeChar d ++ more) :
    c = d ∧ rest = more := by
  rcases spell_append_inj (fits_ofCode c).2 (fits_ofCode d).2 hsame with ⟨_, hcode, hrest⟩
  exact ⟨Char.toNat_inj.mp hcode, hrest⟩

theorem lt_limit_four {form : Form} {code : Nat} (hcode : code < form.limit) :
    code < Form.four.limit := by
  have hlimit : form.limit ≤ Form.four.limit := by cases form <;> decide
  exact Nat.lt_of_lt_of_le hcode hlimit

theorem form_unique {left right : Form} {code : Nat}
    (hleft : left.least ≤ code ∧ code < left.limit)
    (hright : right.least ≤ code ∧ code < right.limit) :
    left = right := by
  have hcode := lt_limit_four hleft.2
  exact ((ofCode_eq_iff hcode).mpr hleft).symm.trans ((ofCode_eq_iff hcode).mpr hright)

theorem exists_encodeChar {form : Form} {code : Nat} (hfits : form.least ≤ code ∧ code < form.limit)
    (hpair : code < 0xD800 ∨ 0xDFFF < code) (hcode : code ≤ 0x10FFFF) :
    ∃ c, spell form code = encodeChar c := by
  have hvalid : code.isValidChar := by
    rcases hpair with hlow | hhigh
    · exact .inl hlow
    · exact .inr ⟨hhigh, Nat.lt_succ_of_le hcode⟩
  have hcoded : (Char.ofNatAux code hvalid).toNat = code := rfl
  refine ⟨Char.ofNatAux code hvalid, ?_⟩
  rw [encodeChar, hcoded, (ofCode_eq_iff (lt_limit_four hfits.2)).mpr hfits]

theorem least_le_limit (form : Form) : form.least ≤ form.limit := by
  cases form <;> decide

theorem code_of_encodeChar_append {c : Char} {form : Form} {code : Nat} {rest more : Bytes}
    (hcode : code < form.limit) (hsame : encodeChar c ++ rest = spell form code ++ more) :
    form.least ≤ code ∧ code = c.toNat := by
  rcases fits_ofCode c with ⟨hleast, hlimit⟩
  rcases spell_append_inj hlimit hcode hsame with ⟨hform, hcoded, _⟩
  rw [← hform, ← hcoded]
  exact ⟨hleast, rfl⟩

/-!
## Breaks

Bytes begin with a character or are broken, and never both.  So the six ways to break off are all
there are.
-/

theorem not_broken_nil : ¬ Broken [] := by
  intro hbroken
  generalize hbytes : ([] : Bytes) = bytes at hbroken
  cases hbroken <;> cases hbytes

theorem exists_next {part rest kept after : Bytes} (hsame : part ++ rest = kept ++ after)
    (hshort : kept.length < part.length) :
    ∃ byte ∈ after.head?, byte ∈ part := by
  rcases List.append_eq_append_iff.mp hsame with ⟨_, hkept, _⟩ | ⟨missing, hpart, hafter⟩
  · rw [hkept, List.length_append] at hshort
    omega
  · cases missing with
    | nil =>
        rw [hpart, List.append_nil] at hshort
        omega
    | cons byte missing =>
        rw [hafter, hpart]
        exact ⟨byte, rfl, by simp⟩

theorem not_broken_encodeChar_append (c : Char) (rest : Bytes) :
    ¬ Broken (encodeChar c ++ rest) := by
  intro hbroken
  generalize hbytes : encodeChar c ++ rest = bytes at hbroken
  have hvalid := toNat_cases c
  have hlimit := (fits_ofCode c).2
  cases hbroken with
  | stray hcontinues =>
      rw [encodeChar, spell, List.cons_append, List.cons.injEq] at hbytes
      exact not_continues_lead (high_lt_room hlimit) (hbytes.1 ▸ hcontinues)
  | unmarked hhigh =>
      rw [encodeChar, spell, List.cons_append, List.cons.injEq] at hbytes
      have hmarked := lead_lt (high_lt_room hlimit)
      rw [hbytes.1] at hmarked
      omega
  | missing hfits _ hfew hends =>
      rw [encodeChar, spell, List.cons_append, List.cons.injEq] at hbytes
      rcases hbytes with ⟨hlead, htail⟩
      rcases lead_inj (high_lt_room hlimit) hfits hlead with ⟨hform, _⟩
      rw [hform] at htail
      -- the character has more digits than are there, so one of them stands where they end
      rcases exists_next htail (by rw [length_digits]; exact hfew) with ⟨byte, hbyte, hdigit⟩
      exact hends byte hbyte (continues_of_mem_digits hdigit)
  | @overlong form code _ hshort =>
      have hcode := code_of_encodeChar_append
        (Nat.lt_of_lt_of_le hshort (least_le_limit form)) hbytes
      omega
  | @surrogate code _ hlow hhigh =>
      have hcode := code_of_encodeChar_append
        (Nat.lt_of_le_of_lt hhigh (by decide)) hbytes
      omega
  | beyond hhigh hfits =>
      have hcode := code_of_encodeChar_append hfits hbytes
      omega

/-- What is spelled in a form is a character, or one of the three things that look like one. -/
theorem broken_or_encodeChar {form : Form} {code : Nat} (hcode : code < form.limit) (rest : Bytes) :
    Broken (spell form code ++ rest) ∨ ∃ c, spell form code = encodeChar c := by
  by_cases hshort : code < form.least
  · exact .inl (.overlong hshort)
  have hfits : form.least ≤ code ∧ code < form.limit := ⟨Nat.not_lt.mp hshort, hcode⟩
  by_cases hbeyond : 0x10FFFF < code
  · have hfour : Form.four.least ≤ code := Nat.le_trans (by decide) (Nat.le_of_lt hbeyond)
    cases form_unique hfits ⟨hfour, lt_limit_four hcode⟩
    exact .inl (.beyond hbeyond hcode)
  by_cases hpair : 0xD800 ≤ code ∧ code ≤ 0xDFFF
  · have hthree : Form.three.least ≤ code := Nat.le_trans (by decide) hpair.1
    cases form_unique hfits ⟨hthree, Nat.lt_of_le_of_lt hpair.2 (by decide)⟩
    exact .inl (.surrogate hpair.1 hpair.2)
  · exact .inr (exists_encodeChar hfits (by omega) (Nat.not_lt.mp hbeyond))

theorem exists_run (bytes : Bytes) :
    ∃ run rest, bytes = run ++ rest ∧ (∀ byte ∈ run, Continues byte) ∧
      ∀ byte ∈ rest.head?, ¬ Continues byte := by
  induction bytes with
  | nil => exact ⟨[], [], rfl, by simp, by simp⟩
  | cons first bytes ih =>
      by_cases hfirst : Continues first
      · rcases ih with ⟨run, rest, hbytes, hrun, hends⟩
        have hgrown := List.forall_mem_cons.mpr ⟨hfirst, hrun⟩
        exact ⟨first :: run, rest, congrArg _ hbytes, hgrown, hends⟩
      · exact ⟨[], first :: bytes, rfl, by simp, by simpa using hfirst⟩

theorem broken_or_begins (first : UInt8) (after : Bytes) :
    Broken (first :: after) ∨ ∃ c rest, first :: after = encodeChar c ++ rest := by
  by_cases hstray : Continues first
  · exact .inl (.stray hstray)
  by_cases hmarked : 0xF8 ≤ first.toNat
  · exact .inl (.unmarked hmarked)
  rcases exists_lead hstray (Nat.not_le.mp hmarked) with ⟨form, high, hhigh, hfirst⟩
  rcases exists_run after with ⟨run, rest, hafter, hrun, hends⟩
  by_cases hfew : run.length < form.more
  · rw [hfirst, hafter]
    exact .inl (.missing hhigh hrun hfew hends)
  · have hlength : (run.take form.more).length = form.more :=
      List.length_take_of_le (Nat.not_lt.mp hfew)
    have hdigits : ∀ byte ∈ run.take form.more, Continues byte :=
      fun byte hbyte => hrun byte (List.mem_of_mem_take hbyte)
    rcases exists_spell hhigh hdigits hlength with ⟨code, hcode, hspell⟩
    have hsplit : first :: after = spell form code ++ (run.drop form.more ++ rest) := by
      rw [← hspell, hfirst, List.cons_append, ← List.append_assoc, List.take_append_drop, ← hafter]
    rw [hsplit]
    rcases broken_or_encodeChar hcode (run.drop form.more ++ rest) with hbroken | ⟨c, hchar⟩
    · exact .inl hbroken
    · exact .inr ⟨c, run.drop form.more ++ rest, by rw [hchar]⟩

/-!
## Texts

Characters are taken off the front as long as one begins.  Which they are, and what is left, is told
by the bytes.
-/

/-- No further character begins. -/
def Stops (rest : Bytes) : Prop :=
  rest = [] ∨ Broken rest

theorem not_stops_encodeChar_append (c : Char) (rest : Bytes) :
    ¬ Stops (encodeChar c ++ rest) := by
  intro hstops
  rcases hstops with hnil | hbroken
  · cases hnil
  · exact not_broken_encodeChar_append c rest hbroken

theorem exists_chars (bytes : Bytes) :
    ∃ (chars : List Char) (rest : Bytes),
      bytes = chars.flatMap encodeChar ++ rest ∧ Stops rest := by
  -- a character is never spelled by no byte, so fewer bytes are left after each
  induction hlength : bytes.length using Nat.strongRecOn generalizing bytes with
  | ind length ih =>
      cases bytes with
      | nil => exact ⟨[], [], rfl, .inl rfl⟩
      | cons first after =>
          rcases broken_or_begins first after with hbroken | ⟨c, others, hbytes⟩
          · exact ⟨[], first :: after, rfl, .inr hbroken⟩
          have hshorter : others.length < length := by
            rw [← hlength, hbytes, encodeChar, spell, List.length_append, List.length_cons]
            omega
          rcases ih others.length hshorter others rfl with ⟨chars, rest, hothers, hstops⟩
          refine ⟨c :: chars, rest, ?_, hstops⟩
          rw [hbytes, hothers, List.flatMap_cons, List.append_assoc]

theorem chars_append_inj {chars others : List Char} {rest more : Bytes}
    (hrest : Stops rest) (hmore : Stops more)
    (hsame : chars.flatMap encodeChar ++ rest = others.flatMap encodeChar ++ more) :
    chars = others ∧ rest = more := by
  induction chars generalizing others with
  | nil =>
      cases others with
      | nil => exact ⟨rfl, hsame⟩
      | cons d others =>
          rw [List.flatMap_nil, List.nil_append, List.flatMap_cons, List.append_assoc] at hsame
          exact absurd (hsame ▸ hrest) (not_stops_encodeChar_append d _)
  | cons c chars ih =>
      rw [List.flatMap_cons, List.append_assoc] at hsame
      cases others with
      | nil =>
          rw [List.flatMap_nil, List.nil_append] at hsame
          exact absurd (hsame ▸ hmore) (not_stops_encodeChar_append c _)
      | cons d others =>
          rw [List.flatMap_cons, List.append_assoc] at hsame
          rcases encodeChar_append_inj hsame with ⟨hchar, htails⟩
          rcases ih htails with ⟨hchars, hleft⟩
          exact ⟨by rw [hchar, hchars], hleft⟩

theorem encode_ofList (chars : List Char) : encode (.ofList chars) = chars.flatMap encodeChar := by
  rw [encode, String.toList_ofList]

/-- Bytes are malformed just if they spell no text. -/
theorem malformed_iff {bytes : Bytes} : Malformed bytes ↔ ∀ text, bytes ≠ encode text := by
  constructor
  · intro hmalformed text htext
    rcases hmalformed with ⟨begun, rest, hbytes, hbroken⟩
    have hsame :
        text.toList.flatMap encodeChar ++ [] = begun.toList.flatMap encodeChar ++ rest := by
      rw [List.append_nil]
      exact htext.symm.trans hbytes
    rcases chars_append_inj (.inl rfl) (.inr hbroken) hsame with ⟨_, hrest⟩
    rw [← hrest] at hbroken
    exact not_broken_nil hbroken
  · intro hnone
    rcases exists_chars bytes with ⟨chars, rest, hbytes, hstops⟩
    rw [← encode_ofList] at hbytes
    rcases hstops with hnil | hbroken
    · rw [hnil, List.append_nil] at hbytes
      exact absurd hbytes (hnone _)
    · exact ⟨_, rest, hbytes, hbroken⟩

/-!
## Decoding
-/

theorem encodeChar_eq (c : Char) : encodeChar c = String.utf8EncodeChar c := by
  have hcode : c.val.toNat < 0x200000 := toNat_lt_limit c
  have hparts : (c.val.toNat / 64) / 64 = c.val.toNat / 4096 ∧
      (c.val.toNat / 64) / 64 / 64 = c.val.toNat / 262144 := by omega
  rw [encodeChar, String.utf8EncodeChar, Form.ofCode]
  simp only [Char.toNat, Nat.le_iff_lt_add_one]
  split_ifs <;> simp only [spell, digits, Form.lead, Form.mark, Form.more, List.nil_append,
    List.cons_append, List.cons.injEq, ← UInt8.toNat_inj, UInt8.toNat_ofNat', and_true] <;> omega

theorem ofText_eq_encode (text : String) : Bytes.ofText text = encode text := by
  have hcharwise : encodeChar = String.utf8EncodeChar := funext encodeChar_eq
  rw [encode, hcharwise, Bytes.ofText, String.toUTF8, ← String.utf8Encode_toList, List.utf8Encode,
    List.toList_data_toByteArray]

theorem text?_eq_some_iff {bytes : Bytes} {text : String} :
    bytes.text? = some text ↔ bytes = encode text := by
  rw [Bytes.text?_eq_some_iff, ofText_eq_encode]

theorem text?_eq_none_iff {bytes : Bytes} : bytes.text? = none ↔ Malformed bytes := by
  rw [malformed_iff, Option.eq_none_iff_forall_ne_some]
  exact forall_congr' fun text => not_congr text?_eq_some_iff

end Utf8
end RowSieve
