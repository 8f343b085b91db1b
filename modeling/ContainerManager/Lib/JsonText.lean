import Mathlib.Data.List.Basic
import Mathlib.Tactic.Common
import Mathlib.Tactic.Ring

/-!
# JSON texts

The grammar of JSON, as a relation between texts and values. Every text of a value closes the braces
that it opens outside of its strings, so a text that does not is no JSON text.
-/

namespace JsonText

/-! ### Grammar -/

/-- A JSON value. Its numbers and strings are kept as they are written. -/
inductive Value where
  | null
  | bool (b : Bool)
  | number (literal : List Char)
  | string (literal : List Char)
  | array (items : List Value)
  | object (members : List (List Char × Value))

/-- The quotation mark. -/
def quote : Char := Char.ofNat 0x22

/-- The reverse solidus. -/
def backslash : Char := Char.ofNat 0x5c

def openBrace : Char := Char.ofNat 0x7b

def closeBrace : Char := Char.ofNat 0x7d

/-- A text of white space. -/
def IsSpace (w : List Char) : Prop := ∀ c ∈ w, c = ' ' ∨ c = '\t' ∨ c = '\n' ∨ c = '\r'

-- the characters are finitely many, but a text is looked through and not all of them
instance : DecidablePred IsSpace := fun w => w.decidableBAll _

/-- A character that stands for itself in a string. -/
def IsUnescaped (c : Char) : Prop := 0x20 ≤ c.toNat ∧ c ≠ quote ∧ c ≠ backslash

instance : DecidablePred IsUnescaped := fun _ => inferInstanceAs (Decidable (_ ∧ _))

def IsHexDigit (c : Char) : Prop := c.isDigit ∨ c ∈ "abcdefABCDEF".toList

instance : DecidablePred IsHexDigit := fun _ => inferInstanceAs (Decidable (_ ∨ _))

/-- The characters between the quotation marks of a string. -/
inductive IsString : List Char → Prop where
  | nil : IsString []
  | char {c : Char} {s : List Char} (hc : IsUnescaped c) (hs : IsString s) : IsString (c :: s)
  | escape {c : Char} {s : List Char} (hc : c ∈ quote :: backslash :: "/bfnrt".toList)
      (hs : IsString s) : IsString (backslash :: c :: s)
  | unicode {h s : List Char} (hlen : h.length = 4) (hh : ∀ c ∈ h, IsHexDigit c)
      (hs : IsString s) : IsString (backslash :: 'u' :: h ++ s)

/-- A text that is written as it is in a string. -/
def IsVerbatim (s : List Char) : Prop := ∀ c ∈ s, IsUnescaped c

instance : DecidablePred IsVerbatim := fun s => s.decidableBAll _

lemma IsVerbatim.isString {s : List Char} (h : IsVerbatim s) : IsString s := by
  induction s with
  | nil => exact .nil
  | cons c s ih =>
    exact .char (h c List.mem_cons_self) (ih fun c hc => h c (List.mem_cons_of_mem _ hc))

def IsDigits (s : List Char) : Prop := ∀ c ∈ s, c.isDigit

/-- The integer part of a number: without leading zeros. -/
inductive IsInt : List Char → Prop where
  | zero : IsInt ['0']
  | digits {c : Char} {s : List Char} (hc : c ≠ '0') (hs : IsDigits (c :: s)) : IsInt (c :: s)

inductive IsFrac : List Char → Prop where
  | nil : IsFrac []
  | digits {s : List Char} (hne : s ≠ []) (hs : IsDigits s) : IsFrac ('.' :: s)

inductive IsExp : List Char → Prop where
  | nil : IsExp []
  | digits {e : Char} {sign s : List Char} (he : e = 'e' ∨ e = 'E')
      (hsign : sign = [] ∨ sign = ['+'] ∨ sign = ['-']) (hne : s ≠ []) (hs : IsDigits s) :
      IsExp (e :: sign ++ s)

/-- The text of a number. -/
inductive IsNumber : List Char → Prop where
  | mk {sign int frac exp : List Char} (hsign : sign = [] ∨ sign = ['-']) (hint : IsInt int)
      (hfrac : IsFrac frac) (hexp : IsExp exp) : IsNumber (sign ++ int ++ frac ++ exp)

def quoted (s : List Char) : List Char := quote :: s ++ [quote]

/-- A member of an object: its name between white space, and the text and the value behind the
colon. -/
structure Member where
  before : List Char
  name : List Char
  after : List Char
  text : List Char
  value : Value

namespace Member

def render (m : Member) : List Char := m.before ++ quoted m.name ++ m.after ++ ':' :: m.text

/-- The name and what is around it are as they should be. -/
structure Named (m : Member) : Prop where
  before : IsSpace m.before
  name : IsString m.name
  after : IsSpace m.after

end Member

/-- The text denotes the value. -/
inductive Denotes : List Char → Value → Prop where
  | null : Denotes "null".toList .null
  | true : Denotes "true".toList (.bool true)
  | false : Denotes "false".toList (.bool false)
  | number {s : List Char} (hs : IsNumber s) : Denotes s (.number s)
  | string {s : List Char} (hs : IsString s) : Denotes (quoted s) (.string s)
  | emptyArray {w : List Char} (hw : IsSpace w) : Denotes ('[' :: w ++ [']']) (.array [])
  | array {items : List (List Char × Value)} (hne : items ≠ [])
      (hi : ∀ p ∈ items, Denotes p.1 p.2) :
      Denotes ('[' :: [','].intercalate (items.map Prod.fst) ++ [']']) (.array (items.map Prod.snd))
  | emptyObject {w : List Char} (hw : IsSpace w) :
      Denotes (openBrace :: w ++ [closeBrace]) (.object [])
  | object {members : List Member} (hne : members ≠ []) (hn : ∀ m ∈ members, m.Named)
      (hm : ∀ m ∈ members, Denotes m.text m.value) :
      Denotes (openBrace :: [','].intercalate (members.map Member.render) ++ [closeBrace])
        (.object (members.map fun m => (m.name, m.value)))
  | space {w w' t : List Char} {v : Value} (hw : IsSpace w) (hw' : IsSpace w') (h : Denotes t v) :
      Denotes (w ++ t ++ w') v

lemma Denotes.behind {w t : List Char} {v : Value} (h : Denotes t v) (hw : IsSpace w) :
    Denotes (w ++ t) v := by
  have hspace : Denotes (w ++ t ++ []) v := .space hw (by simp [IsSpace]) h
  rwa [List.append_nil] at hspace

lemma Denotes.before {w t : List Char} {v : Value} (h : Denotes t v) (hw : IsSpace w) :
    Denotes (t ++ w) v := by
  have hspace : Denotes ([] ++ t ++ w) v := .space (by simp [IsSpace]) hw h
  rwa [List.nil_append] at hspace

/-! ### Braces -/

/-- Where a text is: outside of strings, in a string, or behind a reverse solidus. -/
inductive Mode where
  | plain
  | string
  | escaped
deriving DecidableEq

/-- The place in a text and the braces that are open. -/
structure Scan where
  mode : Mode
  depth : ℤ
deriving DecidableEq

def Scan.step : Scan → Char → Scan
  | ⟨.plain, d⟩, c =>
    if c = quote then ⟨.string, d⟩
    else if c = openBrace then ⟨.plain, d + 1⟩
    else if c = closeBrace then ⟨.plain, d - 1⟩
    else ⟨.plain, d⟩
  | ⟨.string, d⟩, c =>
    if c = quote then ⟨.plain, d⟩ else if c = backslash then ⟨.escaped, d⟩ else ⟨.string, d⟩
  | ⟨.escaped, d⟩, _ => ⟨.string, d⟩

def scan (s : Scan) (t : List Char) : Scan := t.foldl Scan.step s

@[simp] lemma scan_nil (s : Scan) : scan s [] = s := rfl

@[simp] lemma scan_cons (s : Scan) (c : Char) (t : List Char) :
    scan s (c :: t) = scan (s.step c) t := rfl

@[simp] lemma scan_append (s : Scan) (t t' : List Char) : scan s (t ++ t') = scan (scan s t) t' :=
  List.foldl_append

/-- The text opens this many braces more than it closes, outside of its strings. -/
def Opens (k : ℤ) (t : List Char) : Prop := ∀ d, scan ⟨.plain, d⟩ t = ⟨.plain, d + k⟩

/-- The text has neither braces nor strings. -/
def IsPlain (t : List Char) : Prop := ∀ c ∈ t, c ≠ quote ∧ c ≠ openBrace ∧ c ≠ closeBrace

instance : DecidablePred IsPlain := fun t => t.decidableBAll _

section Opens

variable {k k' : ℤ} {t t' s : List Char}

lemma Opens.append (h : Opens k t) (h' : Opens k' t') : Opens (k + k') (t ++ t') := by
  intro d
  rw [scan_append, h d, h' (d + k), add_assoc]

lemma Opens.unique (h : Opens k t) (h' : Opens k' t) : k = k' := by
  have heq := (h 0).symm.trans (h' 0)
  simpa using heq

lemma IsPlain.opens (h : IsPlain t) : Opens 0 t := by
  intro d
  rw [add_zero]
  induction t with
  | nil => rfl
  | cons c t ih =>
    obtain ⟨hq, ho, hc⟩ := h c List.mem_cons_self
    rw [scan_cons, Scan.step, if_neg hq, if_neg ho, if_neg hc]
    exact ih fun c hc => h c (List.mem_cons_of_mem _ hc)

lemma opens_openBrace : Opens 1 [openBrace] := fun _ => rfl

lemma opens_closeBrace : Opens (-1) [closeBrace] := fun _ => rfl

/-- A string ends at its closing quotation mark and not before. -/
lemma IsString.scan (h : IsString s) (d : ℤ) : scan ⟨.string, d⟩ s = ⟨.string, d⟩ := by
  induction h with
  | nil => rfl
  | char hc hs ih =>
    rw [scan_cons, Scan.step, if_neg hc.2.1, if_neg hc.2.2]
    exact ih
  | escape hc hs ih => exact ih
  | unicode hlen hh hs ih =>
    rename_i h s
    have hhex : ∀ u : List Char, (∀ c ∈ u, IsHexDigit c) →
        JsonText.scan ⟨.string, d⟩ u = ⟨.string, d⟩ := by
      intro u hu
      induction u with
      | nil => rfl
      | cons c u ihu =>
        have hc : c ≠ quote ∧ c ≠ backslash := by
          constructor
          all_goals
            rintro rfl
            exact absurd (hu _ List.mem_cons_self) (by decide)
        rw [scan_cons, Scan.step, if_neg hc.1, if_neg hc.2]
        exact ihu fun c hc => hu c (List.mem_cons_of_mem _ hc)
    rw [List.cons_append, List.cons_append, scan_cons, scan_cons, scan_append]
    show JsonText.scan (JsonText.scan ⟨.string, d⟩ h) s = _
    rw [hhex h hh, ih]

lemma opens_quoted (hs : IsString s) : Opens 0 (quoted s) := by
  intro d
  rw [add_zero, quoted, List.cons_append, scan_cons, scan_append]
  show scan (scan ⟨.string, d⟩ s) [quote] = _
  rw [hs.scan d]
  rfl

lemma opens_intercalate {ts : List (List Char)} (h : ∀ t ∈ ts, Opens 0 t) :
    Opens 0 ([','].intercalate ts) := by
  induction ts with
  | nil => exact fun d => by simp
  | cons t ts ih =>
    have ih := ih fun t ht => h t (List.mem_cons_of_mem _ ht)
    cases ts with
    | nil => simpa using h t List.mem_cons_self
    | cons t' ts =>
      rw [List.intercalate_cons_cons]
      have hcomma : Opens 0 [','] := fun d => by rw [add_zero]; rfl
      simpa using ((h t List.mem_cons_self).append hcomma).append ih

end Opens

/-! ### JSON texts are balanced -/

lemma IsSpace.isPlain {w : List Char} (h : IsSpace w) : IsPlain w := by
  intro c hc
  rcases h c hc with rfl | rfl | rfl | rfl <;> decide

lemma IsDigits.isPlain {s : List Char} (h : IsDigits s) : IsPlain s := by
  intro c hc
  have hd := h c hc
  refine ⟨?_, ?_, ?_⟩
  all_goals
    rintro rfl
    exact absurd hd (by decide)

lemma IsPlain.append {t t' : List Char} (h : IsPlain t) (h' : IsPlain t') : IsPlain (t ++ t') := by
  intro c hc
  rcases List.mem_append.mp hc with hc | hc
  · exact h c hc
  · exact h' c hc

lemma IsNumber.isPlain {s : List Char} (h : IsNumber s) : IsPlain s := by
  cases h with
  | mk hsign hint hfrac hexp =>
    refine IsPlain.append (IsPlain.append (IsPlain.append ?_ ?_) ?_) ?_
    · rcases hsign with rfl | rfl <;> decide
    · cases hint with
      | zero => decide
      | digits hc hs => exact hs.isPlain
    · cases hfrac with
      | nil => decide
      | digits hne hs => exact IsPlain.append (t := ['.']) (by decide) hs.isPlain
    · cases hexp with
      | nil => decide
      | digits he hsign hne hs =>
        refine IsPlain.append ?_ hs.isPlain
        rcases he with rfl | rfl <;> rcases hsign with rfl | rfl | rfl <;> decide

/-- A JSON text closes the braces that it opens. -/
theorem Denotes.balanced {t : List Char} {v : Value} (h : Denotes t v) : Opens 0 t := by
  have hbracket : Opens 0 ['['] ∧ Opens 0 [']'] :=
    ⟨fun d => by rw [add_zero]; rfl, fun d => by rw [add_zero]; rfl⟩
  induction h with
  | null => exact IsPlain.opens (by decide)
  | true => exact IsPlain.opens (by decide)
  | false => exact IsPlain.opens (by decide)
  | number hs => exact hs.isPlain.opens
  | string hs => exact opens_quoted hs
  | emptyArray hw => exact (hbracket.1.append hw.isPlain.opens).append hbracket.2
  | @array items hne hi ih =>
    have hitems : Opens 0 ([','].intercalate (items.map Prod.fst)) := by
      apply opens_intercalate
      intro t ht
      obtain ⟨p, hp, rfl⟩ := List.mem_map.mp ht
      exact ih p hp
    exact (hbracket.1.append hitems).append hbracket.2
  | emptyObject hw => exact (opens_openBrace.append hw.isPlain.opens).append opens_closeBrace
  | @object members hne hn hm ih =>
    have hcolon : Opens 0 [':'] := fun d => by rw [add_zero]; rfl
    have hmembers : Opens 0 ([','].intercalate (members.map Member.render)) := by
      apply opens_intercalate
      intro t ht
      obtain ⟨m, hmem, rfl⟩ := List.mem_map.mp ht
      obtain ⟨hbefore, hname, hafter⟩ := hn m hmem
      have hhead := (hbefore.isPlain.opens.append (opens_quoted hname)).append hafter.isPlain.opens
      exact hhead.append (hcolon.append (ih m hmem))
    exact (opens_openBrace.append hmembers).append opens_closeBrace
  | space hw hw' h ih => exact (hw.isPlain.opens.append ih).append hw'.isPlain.opens

end JsonText
