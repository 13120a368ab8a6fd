import Remittance.Proofs.Json.Completeness
import Remittance.Proofs.Json.Number
import Remittance.Proofs.Json.Readable

/-!
# Values written and read

What is written of a value spells it, so a value that can be read at all is read back from its text,
with or without blanks between its parts. What is written is a text of characters exactly if all
texts in the value are. Main statements: `spells_codes`, `read_write_of_parts` and
`whole_write_iff`.
-/

set_option autoImplicit false

namespace Remittance.Json

section Text

/-- A hexadecimal digit has the number that it was written of. -/
theorem hexValue_hexDigit {n : Nat} (hn : n < 16) :
    Octets.hexValue? (Octets.hexDigit n) = some n := by
  have hall : ∀ n : Fin 16, Octets.hexValue? (Octets.hexDigit n) = some n.val := by decide
  exact hall ⟨n, hn⟩

/-- The four digits by which a control is written. -/
theorem quad_control {n : Nat} (hn : n < 32) :
    Quad ['0', '0', Octets.hexDigit (n / 16), Octets.hexDigit (n % 16)] n := by
  have hhigh : Octets.hexValue? (Octets.hexDigit (n / 16)) = some (n / 16) :=
    hexValue_hexDigit (by omega)
  have hlow : Octets.hexValue? (Octets.hexDigit (n % 16)) = some (n % 16) :=
    hexValue_hexDigit (by omega)
  have hzero : Octets.hexValue? '0' = some 0 := rfl
  have hquad := Quad.digits hzero hzero hhigh hlow
  rwa [show ((0 * 16 + 0) * 16 + n / 16) * 16 + n % 16 = n by omega] at hquad

/-- One character that is written spells itself. -/
theorem spellsText_escape (c : Char) {cs : List Char} {text : List CodePoint}
    (hmore : SpellsText cs text) : SpellsText (escape c ++ cs) (.char c :: text) := by
  unfold escape
  split
  · next h => exact h ▸ .letter '"' '"' rfl hmore
  split
  · next h => exact h ▸ .letter '\\' '\\' rfl hmore
  split
  · next h => exact h ▸ .letter 'n' '\n' rfl hmore
  split
  · next h => exact h ▸ .letter 'r' '\r' rfl hmore
  split
  · next h => exact h ▸ .letter 't' '\t' rfl hmore
  split
  · next h =>
    obtain rfl : c = Char.ofNat 8 := by rw [← h, Char.ofNat_toNat]
    exact .letter 'b' _ rfl hmore
  split
  · next h =>
    obtain rfl : c = Char.ofNat 12 := by rw [← h, Char.ofNat_toNat]
    exact .letter 'f' _ rfl hmore
  split
  · next h =>
    have hchar : CodePoint.ofNat c.toNat = .char c := by
      rw [CodePoint.ofNat, dif_neg (by omega), Char.ofNat_toNat]
    have hspells := SpellsText.number (quad_control h) (fun hhigh _ => ?_) hmore
    · rwa [hchar] at hspells
    · have := hhigh.1
      omega
  · next hquote hslash _ _ _ _ _ hprintable =>
    exact .plain c ⟨by omega, hquote, hslash⟩ hmore

/-- Two runs of characters are equal if they are so as code points. -/
theorem eq_of_map_char {cs : List Char} (known : List Char)
    (h : cs.map CodePoint.char = known.map .char) : cs = known :=
  List.map_injective_iff.mpr (fun _ _ => CodePoint.char.inj) h

/-- Code points that are written as characters spell themselves. -/
theorem spellsText_escapeCode {codes : List CodePoint} {cs : List Char}
    (hcs : codes.flatMap escapeCode = cs.map .char) : SpellsText cs codes := by
  induction codes generalizing cs with
  | nil =>
    rw [List.map_eq_nil_iff.mp hcs.symm]
    exact .nil
  | cons code codes ih =>
    rw [List.flatMap_cons] at hcs
    obtain ⟨first, others, rfl, hfirst, hothers⟩ := List.map_eq_append_iff.mp hcs.symm
    cases code with
    | char c =>
      rw [eq_of_map_char _ hfirst]
      exact spellsText_escape c (ih hothers.symm)
    | half place =>
      obtain ⟨c, more, -, hc, -⟩ := List.map_eq_cons_iff.mp hfirst
      cases hc

/-- Characters that need no escape spell themselves. -/
theorem spellsText_plain {cs : List Char}
    (hplain : ∀ c ∈ cs, 0x20 ≤ c.toNat ∧ c ≠ '"' ∧ c ≠ '\\') : SpellsText cs (cs.map .char) := by
  induction cs with
  | nil => exact .nil
  | cons c cs ih =>
    apply SpellsText.plain c (hplain c List.mem_cons_self)
    exact ih fun d hd => hplain d (List.mem_cons_of_mem c hd)

/-- Where code points begin with known characters, the characters that they are do so too. -/
theorem exists_of_map_char (known : List Char) {cs : List Char} {more : List CodePoint}
    (h : cs.map .char = known.map .char ++ more) :
    ∃ rest, cs = known ++ rest ∧ rest.map .char = more := by
  obtain ⟨front, rest, rfl, hfront, hrest⟩ := List.map_eq_append_iff.mp h
  exact ⟨rest, by rw [eq_of_map_char known hfront], hrest⟩

/-- What is written between quotes as characters spells the code points of a text. -/
theorem exists_spellsText {t : Text} {cs : List Char} {more : List CodePoint}
    (h : cs.map .char = quoted t ++ more) :
    ∃ inner rest, cs = '"' :: (inner ++ '"' :: rest) ∧ SpellsText inner t.codes ∧
      rest.map .char = more := by
  rw [quoted, List.cons_append, List.cons_append, List.append_assoc] at h
  obtain ⟨after, rfl, hafter⟩ := exists_of_map_char ['"'] h
  obtain ⟨inner, last, rfl, hinner, hlast⟩ := List.map_eq_append_iff.mp hafter
  obtain ⟨rest, rfl, hrest⟩ := exists_of_map_char ['"'] hlast
  exact ⟨inner, rest, rfl, spellsText_escapeCode hinner.symm, hrest⟩

end Text

section Parts

variable {admits : Nat → Prop} {room : Nat}

/-- No blanks. -/
theorem blanks_nil : Blanks [] := fun _ hc => by cases hc

/-- A layout sets a comma and a colon between the parts of a value, and perhaps blanks. -/
structure Layout.Parts (layout : Layout) : Prop where
  comma : ∃ bs, Blanks bs ∧ layout.comma = ',' :: bs
  colon : ∃ bs, Blanks bs ∧ layout.colon = ':' :: bs

/-- A compact layout sets no blanks. -/
theorem parts_compact : Layout.compact.Parts := ⟨⟨[], blanks_nil, rfl⟩, ⟨[], blanks_nil, rfl⟩⟩

/-- A spaced layout sets one blank. -/
theorem parts_spaced : Layout.spaced.Parts := by
  have hspace : Blanks [' '] := by simp [Blanks, isBlank]
  exact ⟨⟨[' '], hspace, rfl⟩, ⟨[' '], hspace, rfl⟩⟩

variable {layout : Layout}

/-- A value spells itself, if it is written as characters. -/
def SpellsItself (admits : Nat → Prop) (room : Nat) (layout : Layout) (j : Json) : Prop :=
  ∀ cs : List Char, cs.map .char = codes layout j → Spells admits room cs j

/-- Between items stands a comma, and behind the last one the bracket. -/
theorem spells_itemCodes (hlayout : layout.Parts) {items : List Json} (hne : items ≠ [])
    (hitems : ∀ item ∈ items, SpellsItself admits room layout item) {cs : List Char}
    (hcs : cs.map .char = itemCodes layout items ++ [.char ']']) :
    SpellsItems admits room cs items := by
  obtain ⟨bs, hbs, hcomma⟩ := hlayout.comma
  induction items generalizing cs with
  | nil => exact absurd rfl hne
  | cons item others ih =>
    have hitem := hitems item List.mem_cons_self
    cases others with
    | nil =>
      obtain ⟨first, last, rfl, hfirst, hlast⟩ := List.map_eq_append_iff.mp hcs
      rw [eq_of_map_char [']'] hlast]
      exact .last (hitem first hfirst) blanks_nil
    | cons next others =>
      rw [itemCodes.eq_3 _ _ _ (List.cons_ne_nil _ _), List.append_assoc, List.append_assoc,
        hcomma] at hcs
      obtain ⟨first, after, rfl, hfirst, hafter⟩ := List.map_eq_append_iff.mp hcs
      obtain ⟨rest, rfl, hrest⟩ := exists_of_map_char _ hafter
      have hothers := ih (List.cons_ne_nil _ _)
        (fun i hi => hitems i (List.mem_cons_of_mem _ hi)) hrest
      exact .more (hitem first hfirst) blanks_nil hbs hothers

/-- A name that was not there is put last. -/
theorem put_of_not_mem {read : Members} {name : Text} {value : Json}
    (h : name ∉ read.map Prod.fst) : read.put name value = read ++ [(name, value)] := by
  induction read with
  | nil => rfl
  | cons first others ih =>
    rw [List.map_cons, List.mem_cons, not_or] at h
    have hother : (first.1 == name) = false := beq_eq_false_iff_ne.mpr fun heq => h.1 heq.symm
    rw [Members.put, hother, if_neg Bool.false_ne_true, ih h.2, List.cons_append]

/-- Members with new names are put behind those that are there, in the order in which they are
written. -/
theorem spells_memberCodes (hlayout : layout.Parts) {read members : Members} (hne : members ≠ [])
    (hnames : ((read ++ members).map Prod.fst).Nodup)
    (hmembers : ∀ m ∈ members, SpellsItself admits room layout m.2) {cs : List Char}
    (hcs : cs.map .char = memberCodes layout members ++ [.char '}']) :
    SpellsMembers admits room read cs (read ++ members) := by
  obtain ⟨bs, hbs, hcomma⟩ := hlayout.comma
  obtain ⟨bs', hbs', hcolon⟩ := hlayout.colon
  induction members generalizing read cs with
  | nil => exact absurd rfl hne
  | cons m others ih =>
    obtain ⟨name, value⟩ := m
    have hvalue := hmembers (name, value) List.mem_cons_self
    have hnew : name ∉ read.map Prod.fst := by
      rw [List.map_append, List.nodup_append] at hnames
      intro hmem
      exact hnames.2.2 name hmem name List.mem_cons_self rfl
    have hput : read.put name value = read ++ [(name, value)] := put_of_not_mem hnew
    cases others with
    | nil =>
      rw [memberCodes, List.append_assoc, List.append_assoc, hcolon] at hcs
      obtain ⟨inner, after, rfl, hname, hafter⟩ := exists_spellsText hcs
      obtain ⟨rest, rfl, hrest⟩ := exists_of_map_char _ hafter
      obtain ⟨first, last, rfl, hfirst, hlast⟩ := List.map_eq_append_iff.mp hrest
      rw [eq_of_map_char ['}'] hlast, ← hput]
      exact .last hname blanks_nil hbs' (hvalue first hfirst) blanks_nil
    | cons next others =>
      rw [memberCodes.eq_3 _ _ _ _ (List.cons_ne_nil _ _), List.append_assoc, List.append_assoc,
        List.append_assoc, List.append_assoc, hcolon, hcomma] at hcs
      obtain ⟨inner, after, rfl, hname, hafter⟩ := exists_spellsText hcs
      obtain ⟨behind, rfl, hbehind⟩ := exists_of_map_char _ hafter
      obtain ⟨first, last, rfl, hfirst, hlast⟩ := List.map_eq_append_iff.mp hbehind
      obtain ⟨rest, rfl, hrest⟩ := exists_of_map_char _ hlast
      have hothers := @ih (read ++ [(name, value)]) (List.cons_ne_nil _ _)
        (by rwa [List.append_assoc]) (fun m hm => hmembers m (List.mem_cons_of_mem _ hm)) _ hrest
      rw [← hput] at hothers
      have hspells := SpellsMembers.more hname blanks_nil hbs' (hvalue first hfirst) blanks_nil hbs
        hothers
      rwa [hput, List.append_assoc] at hspells

end Parts

section Texts

mutual

/-- The texts in a value, the names of members among them. -/
def texts : Json → List Text
  | .text t => [t]
  | .list items => itemTexts items
  | .object members => memberTexts members
  | _ => []

/-- The texts in the items of a list. -/
def itemTexts : List Json → List Text
  | [] => []
  | item :: rest => texts item ++ itemTexts rest

/-- The texts in the members of an object. -/
def memberTexts : List (Text × Json) → List Text
  | [] => []
  | (name, value) :: rest => name :: (texts value ++ memberTexts rest)

end

/-- All texts in a value are whole. -/
def Whole (j : Json) : Prop := ∀ t ∈ j.texts, t.Whole

/-- A text alone is whole as a value exactly if it is whole. -/
@[simp] theorem whole_text_iff {t : Text} : (text t).Whole ↔ t.Whole := by
  simp [Whole, texts]

/-- An object is whole exactly if the names and the values of its members are. -/
theorem whole_object_iff {members : Members} :
    (object members).Whole ↔ ∀ m ∈ members, m.1.Whole ∧ m.2.Whole := by
  unfold Whole
  rw [texts]
  induction members with
  | nil => simp [memberTexts]
  | cons m rest ih =>
    rw [memberTexts, List.forall_mem_cons, List.forall_mem_append, ih, List.forall_mem_cons,
      and_assoc]

variable {layout : Layout} {place : Fin 0x800}

/-- A half of a pair stands between quotes exactly if it stands in the text. -/
@[simp] theorem half_mem_quoted {t : Text} :
    CodePoint.half place ∈ quoted t ↔ CodePoint.half place ∈ t.codes := by
  have hescape (code : CodePoint) :
      CodePoint.half place ∈ escapeCode code ↔ code = .half place := by
    cases code <;> simp [escapeCode, eq_comm]
  simp [quoted, hescape]

mutual

/-- A half of a pair stands in what is written exactly if it stands in a text of the value. -/
theorem half_mem_codes : ∀ j : Json,
    CodePoint.half place ∈ codes layout j ↔ ∃ t ∈ j.texts, CodePoint.half place ∈ t.codes
  | .null => by simp [codes, texts]
  | .bool true => by simp [codes, texts]
  | .bool false => by simp [codes, texts]
  | .int n => by simp [codes, texts]
  | .real x => by simp [codes, texts]
  | .text t => by simp [codes, texts]
  | .list items => by simp [codes, texts, half_mem_itemCodes items]
  | .object members => by simp [codes, texts, half_mem_memberCodes members]

/-- The same for the items of a list. -/
theorem half_mem_itemCodes : ∀ items : List Json,
    CodePoint.half place ∈ itemCodes layout items ↔
      ∃ t ∈ itemTexts items, CodePoint.half place ∈ t.codes
  | [] => by simp [itemCodes, itemTexts]
  | [item] => by simp [itemCodes, itemTexts, half_mem_codes item]
  | item :: next :: rest => by
    have hrest := half_mem_itemCodes (next :: rest)
    rw [itemCodes.eq_3 _ _ _ (List.cons_ne_nil _ _), itemTexts]
    simp [half_mem_codes item, hrest, or_and_right, exists_or]

/-- The same for the members of an object. -/
theorem half_mem_memberCodes : ∀ members : Members,
    CodePoint.half place ∈ memberCodes layout members ↔
      ∃ t ∈ memberTexts members, CodePoint.half place ∈ t.codes
  | [] => by simp [memberCodes, memberTexts]
  | [(name, value)] => by simp [memberCodes, memberTexts, half_mem_codes value]
  | (name, value) :: next :: rest => by
    have hrest := half_mem_memberCodes (next :: rest)
    rw [memberCodes.eq_3 _ _ _ _ (List.cons_ne_nil _ _), memberTexts]
    simp [half_mem_codes value, hrest, or_and_right, exists_or]

end

/-- What is written of a value is a text of characters exactly if all texts in the value are. -/
theorem whole_write_iff {j : Json} : (write layout j).Whole ↔ j.Whole := by
  have hhalf : (∀ place, CodePoint.half place ∉ codes layout j) ↔
      ∀ t ∈ j.texts, ∀ place, CodePoint.half place ∉ t.codes := by
    simp only [half_mem_codes]
    push Not
    exact ⟨fun h t ht place => h place t ht, fun h place t ht => h t ht place⟩
  rw [Text.whole_iff]
  show (∀ place, CodePoint.half place ∉ codes layout j) ↔ _
  rw [hhalf]
  exact forall₂_congr fun t _ => Text.whole_iff.symm

end Texts

variable {room : Nat} {layout : Layout}

/-- A value that can be read spells itself, if it is written as characters. -/
theorem spells_codes (hlayout : layout.Parts) {j : Json} (hread : Readable room j) :
    SpellsItself Limited room layout j := by
  induction hread with
  | null =>
    intro cs hcs
    rw [eq_of_map_char _ hcs]
    exact .word (w := ("null".toList, .null)) (by simp [words])
  | bool b =>
    intro cs hcs
    cases b with
    | false =>
      rw [eq_of_map_char _ hcs]
      exact .word (w := ("false".toList, .bool false)) (by simp [words])
    | true =>
      rw [eq_of_map_char _ hcs]
      exact .word (w := ("true".toList, .bool true)) (by simp [words])
  | int n hlength =>
    intro cs hcs
    rw [eq_of_map_char _ hcs]
    exact .number (spells_signed hlength)
  | real x hnumber =>
    intro cs hcs
    rw [eq_of_map_char _ hcs]
    cases x with
    | finite negative m e => exact .number (spells_number hnumber)
    | undefined => exact .word (w := ("NaN".toList, .real .undefined)) (by simp [words])
    | infinite negative =>
      cases negative with
      | false => exact .word (w := ("Infinity".toList, .real (.infinite false))) (by simp [words])
      | true => exact .word (w := ("-Infinity".toList, .real (.infinite true))) (by simp [words])
  | text t =>
    intro cs hcs
    rw [codes, ← List.append_nil (quoted t)] at hcs
    obtain ⟨inner, rest, rfl, htext, hrest⟩ := exists_spellsText hcs
    rw [List.map_eq_nil_iff.mp hrest]
    exact .text htext
  | list items hitems ih =>
    intro cs hcs
    rw [codes] at hcs
    obtain ⟨inner, rfl, hinner⟩ := exists_of_map_char ['['] hcs
    cases items with
    | nil =>
      rw [eq_of_map_char [']'] hinner]
      exact .emptyList blanks_nil
    | cons item others =>
      have hspells := spells_itemCodes hlayout (List.cons_ne_nil _ _) ih hinner
      exact @Spells.list _ _ [] _ _ blanks_nil hspells
  | object members hnames hvalues ih =>
    intro cs hcs
    rw [codes] at hcs
    obtain ⟨inner, rfl, hinner⟩ := exists_of_map_char ['{'] hcs
    cases members with
    | nil =>
      rw [eq_of_map_char ['}'] hinner]
      exact .emptyObject blanks_nil
    | cons m others =>
      have hspells :=
        @spells_memberCodes _ _ _ hlayout [] _ (List.cons_ne_nil _ _) hnames ih _ hinner
      exact @Spells.object _ _ [] _ _ blanks_nil hspells

/-- A value that can be read is read back from its text, if that is one of characters. -/
theorem read_write_of_parts (hlayout : layout.Parts) {j : Json} (hread : Readable room j)
    {s : String}
    (hs : write layout j = s) : read room s = .ok j := by
  have hcs : s.toList.map .char = codes layout j := (congrArg Text.codes hs).symm
  apply read_of_document
  refine ⟨[], s.toList, [], blanks_nil, spells_codes hlayout hread _ hcs, blanks_nil, ?_⟩
  rw [List.nil_append, List.append_nil]

end Remittance.Json
