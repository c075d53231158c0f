import StubForge.Proofs.PhpReading

set_option autoImplicit false

/-!
Sources that are put together from the marks of a template and from texts between them: texts in comments, quoted
texts, and names in the code. Which texts can be put in so that each of them is read where it was put is said
character by character, and a source is guarded exactly if all its texts are such.
-/

namespace StubForge.Php

inductive Fragment where
  | marks (text : String)
  -- Texts put into a comment up to its end mark, and into one up to the end of its line.
  | comment (text : String)
  | remark (text : String)
  -- A quoted text, with what the template itself has between the quotes around the text that is put in.
  | quoted (front text back : String)
  | name (text : String)

def Fragment.chars : Fragment → List Char
  | marks text => text.toList
  | comment text => text.toList
  | remark text => text.toList
  | quoted front text back => '\'' :: ((front ++ text ++ back).toList ++ ['\''])
  | name text => text.toList

def written (fragments : List Fragment) : List Char := fragments.flatMap Fragment.chars

theorem written_append (fragments more : List Fragment) : written (fragments ++ more) = written fragments ++ written more :=
  List.flatMap_append

/-! ### Where texts are read -/

def At (place mode : Mode) : Prop := mode = place

def InBlock (mode : Mode) : Prop := ∃ star, mode = .block star

def InLine (mode : Mode) : Prop := ∃ question, mode = .line question

-- In the code, or in a name.
def InNames (mode : Mode) : Prop := mode = .code ∨ ∃ text, mode = .word text

-- Characters of names and of paths of names. All those outside of ASCII belong to them.
def isNameChar (c : Char) : Bool := isWord c || c == '\\' || 128 ≤ c.toNat

-- A text is read where it was put: at each of its characters the scanner is in the comment, the quoted text is the
-- next token and holds what was put in, and a name is made of characters of names.
def Stays (mode : Mode) : Fragment → Prop
  | .marks _ => True
  | .comment text => ∀ front, front <+: text.toList → InBlock (scan mode front).1
  | .remark text => ∀ front, front <+: text.toList → InLine (scan mode front).1
  | .quoted front text back =>
      Scans mode (Fragment.quoted front text back).chars .code [.literal (front ++ text ++ back)]
  | .name text => ∀ c ∈ text.toList, isNameChar c = true

-- Every text of a source is read where it was put.
def Guarded : Mode → List Fragment → Prop
  | _, [] => True
  | mode, fragment :: rest => Stays mode fragment ∧ Guarded (scan mode fragment.chars).1 rest

-- Texts that stand for themselves between quotes: no quote, no two backslashes in a row, and none at the end.
structure Verbatim (text : List Char) : Prop where
  quote : '\'' ∉ text
  pair : ¬['\\', '\\'] <:+: text
  last : text.getLast? ≠ some '\\'

-- The instances for pairs and for all characters of a text are named: with more imports, others would be found, one of
-- which goes through all characters that there are.
def decidePair (a b : Char) (text : List Char) : Decidable ([a, b] <:+: text) :=
  List.instDecidableIsInfixOfDecidableEq [a, b] text

instance (text : List Char) : Decidable (Verbatim text) :=
  let _ := decidePair '\\' '\\' text
  decidable_of_iff (('\'' ∉ text ∧ ¬['\\', '\\'] <:+: text) ∧ text.getLast? ≠ some '\\')
    ⟨fun own => ⟨own.1.1, own.1.2, own.2⟩, fun own => ⟨⟨own.quote, own.pair⟩, own.last⟩⟩

def Fragment.Safe : Fragment → Prop
  | marks _ => True
  | comment text => ¬['*', '/'] <:+: text.toList
  | remark text => '\n' ∉ text.toList ∧ '\r' ∉ text.toList ∧ ¬['?', '>'] <:+: text.toList
  | quoted front text back => Verbatim (front ++ text ++ back).toList
  | name text => ∀ c ∈ text.toList, isNameChar c = true

instance (fragment : Fragment) : Decidable fragment.Safe :=
  match fragment with
  | .marks _ => instDecidableTrue
  | .comment text => @instDecidableNot _ (decidePair '*' '/' text.toList)
  | .remark text =>
      let _ := decidePair '?' '>' text.toList
      inferInstanceAs (Decidable ('\n' ∉ text.toList ∧ '\r' ∉ text.toList ∧ ¬['?', '>'] <:+: text.toList))
  | .quoted front text back => inferInstanceAs (Decidable (Verbatim (front ++ text ++ back).toList))
  | .name text => @List.decidableBAll Char (fun c => isNameChar c = true) (fun _ => inferInstance) text.toList

/-! ### Comments -/

theorem prefixes_cons (holds : List Char → Prop) (c : Char) (text : List Char) :
    (∀ front, front <+: c :: text → holds front) ↔ holds [] ∧ ∀ front, front <+: text → holds (c :: front) := by
  constructor
  · intro all
    exact ⟨all [] List.nil_prefix, fun front leads => all _ ((List.prefix_cons_inj c).mpr leads)⟩
  · rintro ⟨none, all⟩ front leads
    cases front with
    | nil => exact none
    | cons first rest =>
        obtain ⟨rfl, goes⟩ := List.cons_prefix_cons.mp leads
        exact all rest goes

theorem infix_pair_cons (a b c : Char) (text : List Char) :
    [a, b] <:+: c :: text ↔ (c = a ∧ text.head? = some b) ∨ [a, b] <:+: text := by
  rw [List.infix_cons_iff, List.cons_prefix_cons]
  refine or_congr_left (and_congr eq_comm ?_)
  cases text with
  | nil => simp
  | cons first rest => simp [List.cons_prefix_cons, eq_comm]

-- A comment is left at its end mark only, of which a star may have been read before.
theorem scan_block_stays (star : Bool) (text : List Char) :
    (∀ front, front <+: text → InBlock (scan (.block star) front).1) ↔
      ¬(star = true ∧ text.head? = some '/') ∧ ¬['*', '/'] <:+: text := by
  induction text generalizing star with
  | nil => simp [scan, InBlock]
  | cons c rest ih =>
      rw [prefixes_cons, infix_pair_cons, and_iff_right ⟨star, rfl⟩]
      by_cases ends : star = true ∧ c = '/'
      · obtain ⟨rfl, rfl⟩ := ends
        refine ⟨fun all => ?_, fun both => absurd ⟨rfl, rfl⟩ both.1⟩
        obtain ⟨_, left⟩ := all [] List.nil_prefix
        cases left
      · have goes : step (.block star) c = (.block (c == '*'), []) := by
          rw [step, if_neg (by simpa using ends)]
        simp only [scan, goes, ih, List.head?_cons, Option.some.injEq, beq_iff_eq]
        rw [and_iff_right ends, not_or]

theorem comment_of_stays (mode : Mode) (text : List Char)
    (stays : ∀ front, front <+: text → InBlock (scan mode front).1) : ∃ star, Scans mode text (.block star) [] := by
  induction text generalizing mode with
  | nil =>
      obtain ⟨star, here⟩ := stays [] List.nil_prefix
      exact ⟨star, Prod.ext here rfl⟩
  | cons c rest ih =>
      obtain ⟨⟨star, rfl⟩, others⟩ := (prefixes_cons _ c rest).mp stays
      obtain ⟨last, inner⟩ := ih (step (.block star) c).1 others
      have silent : (step (.block star) c).2 = [] := by
        rw [step]
        split <;> rfl
      rw [Scans] at inner
      exact ⟨last, by rw [Scans, scan, inner, silent]; rfl⟩

theorem comment_of_safe (text : List Char) (safe : ¬['*', '/'] <:+: text) : Comment text :=
  comment_of_stays _ _ ((scan_block_stays false text).mpr ⟨by simp, safe⟩)

theorem scan_line_stays (question : Bool) (text : List Char) :
    (∀ front, front <+: text → InLine (scan (.line question) front).1) ↔
      ('\n' ∉ text ∧ '\r' ∉ text) ∧ ¬(question = true ∧ text.head? = some '>') ∧ ¬['?', '>'] <:+: text := by
  induction text generalizing question with
  | nil => simp [scan, InLine]
  | cons c rest ih =>
      rw [prefixes_cons, infix_pair_cons, and_iff_right ⟨question, rfl⟩]
      by_cases ends : (c = '\n' ∨ c = '\r') ∨ question = true ∧ c = '>'
      · refine ⟨fun all => ?_, fun accepted => ?_⟩
        · obtain ⟨_, left⟩ := all [] List.nil_prefix
          rcases ends with (rfl | rfl) | ⟨rfl, rfl⟩ <;> cases left
        · obtain ⟨free, stays, -⟩ := accepted
          rcases ends with (rfl | rfl) | ⟨rfl, rfl⟩
          · exact absurd List.mem_cons_self free.1
          · exact absurd List.mem_cons_self free.2
          · exact absurd ⟨rfl, rfl⟩ stays
      · obtain ⟨breaks, mark⟩ := not_or.mp ends
        have goes : step (.line question) c = (.line (c == '?'), []) := by
          rw [step, if_neg breaks, if_neg (by simpa using mark)]
        obtain ⟨feed, carriage⟩ := not_or.mp breaks
        simp only [scan, goes, ih, List.head?_cons, Option.some.injEq, beq_iff_eq, List.mem_cons, not_or,
          Ne.symm feed, Ne.symm carriage, not_false_eq_true, true_and]
        rw [and_iff_right mark]

/-! ### Quoted texts -/

theorem verbatim_tail {c : Char} {text : List Char} (own : Verbatim (c :: text)) : Verbatim text where
  quote inside := own.quote (List.mem_cons_of_mem c inside)
  pair inside := own.pair ((infix_pair_cons ..).mpr (.inr inside))
  last ends := own.last (by
    cases text with
    | nil => cases ends
    | cons next rest => rwa [List.getLast?_cons_cons])

theorem verbatim_plain {c : Char} {text : List Char} (quote : c ≠ '\'') (slash : c ≠ '\\') (own : Verbatim text) :
    Verbatim (c :: text) where
  quote := by simp [Ne.symm quote, own.quote]
  pair := by
    rw [infix_pair_cons]
    simp [slash, own.pair]
  last := by
    cases text with
    | nil => simpa using slash
    | cons next rest =>
        rw [List.getLast?_cons_cons]
        exact own.last

theorem verbatim_slash {next : Char} {text : List Char} (quote : next ≠ '\'') (slash : next ≠ '\\')
    (own : Verbatim text) : Verbatim ('\\' :: next :: text) where
  quote := by simp [Ne.symm quote, own.quote]
  pair := by
    rw [infix_pair_cons, infix_pair_cons]
    simp [slash, own.pair]
  last := by
    rw [List.getLast?_cons_cons]
    exact (verbatim_plain quote slash own).last

-- By induction on the text two characters at a time: a backslash is read together with the one behind it.
theorem quotable_of_verbatim (text : List Char) (own : Verbatim text) : Quotable text := by
  cases text with
  | nil => exact fun before => by simp [Scans, scan]
  | cons c rest =>
      have quote : c ≠ '\'' := fun same => own.quote (same ▸ List.mem_cons_self)
      intro before
      by_cases slash : c = '\\'
      · subst slash
        cases rest with
        | nil => exact absurd rfl own.last
        | cons next more =>
            have plain : next ≠ '\'' := fun same => own.quote (same ▸ List.mem_cons_of_mem _ List.mem_cons_self)
            have single : next ≠ '\\' := fun same => own.pair ((infix_pair_cons ..).mpr (.inl ⟨rfl, congrArg some same⟩))
            have inner := quotable_of_verbatim more (verbatim_tail (verbatim_tail own)) (before ++ ['\\', next])
            rw [Scans] at inner ⊢
            simp [scan, step, plain, single, inner]
      · have inner := quotable_of_verbatim rest (verbatim_tail own) (before ++ [c])
        rw [Scans] at inner ⊢
        simp [scan, step, quote, slash, inner]

-- A quoted text holds no more characters than stand between its quotes.
theorem literal_bounded (text before : List Char) (literal : String) (found : List Token) :
    ((scan (.quoted before) text).2 = .literal literal :: found →
      literal.toList.length + 1 ≤ before.length + text.length) ∧
    ((scan (.escaped before) text).2 = .literal literal :: found →
      literal.toList.length ≤ before.length + text.length) := by
  induction text generalizing before with
  | nil => exact ⟨nofun, nofun⟩
  | cons c rest ih =>
      constructor
      · intro scanned
        by_cases quote : c = '\''
        · simp only [scan, step, if_pos quote, List.cons_append, List.cons.injEq, Token.literal.injEq] at scanned
          simp [← scanned.1]
        · by_cases slash : c = '\\'
          · simp only [scan, step, if_neg quote, if_pos slash, List.nil_append] at scanned
            have bound := (ih before).2 scanned
            simp only [List.length_cons]
            omega
          · simp only [scan, step, if_neg quote, if_neg slash, List.nil_append] at scanned
            have bound := (ih (before ++ [c])).1 scanned
            simp only [List.length_append, List.length_cons, List.length_nil] at bound ⊢
            omega
      · intro scanned
        simp only [scan, step, List.nil_append] at scanned
        have bound := (ih _).1 scanned
        split at bound <;> simp only [List.length_append, List.length_cons, List.length_nil] at bound ⊢ <;> omega

-- By induction on the text two characters at a time. A backslash that takes its next character away leaves too few
-- characters for the text as it was put in.
theorem verbatim_of_scans (text before : List Char)
    (scanned : Scans (.quoted before) (text ++ ['\'']) .code [.literal (String.ofList (before ++ text))]) :
    Verbatim text := by
  cases text with
  | nil => exact ⟨by simp, by simp, by simp⟩
  | cons c rest =>
      rw [Scans, List.cons_append, scan] at scanned
      obtain ⟨ends, found⟩ := Prod.mk.inj scanned
      by_cases quote : c = '\''
      · subst quote
        have short := congrArg String.toList (Token.literal.inj (List.cons.inj found).1)
        simp at short
      by_cases slash : c = '\\'
      · subst slash
        cases rest with
        | nil => cases ends
        | cons next more =>
            by_cases taken : next = '\'' ∨ next = '\\'
            · simp only [step, if_neg quote, if_true, List.nil_append, List.cons_append, scan, if_pos taken] at found
              have bound := (literal_bounded _ _ _ _).1 found
              simp at bound
              omega
            · have inner := verbatim_of_scans more (before ++ ['\\', next]) (by
                simp only [step, if_neg quote, if_true, List.nil_append, List.cons_append, scan, if_neg taken] at found ends
                refine Prod.ext ends (found.trans ?_)
                simp)
              obtain ⟨plain, single⟩ := not_or.mp taken
              exact verbatim_slash plain single inner
      · have inner := verbatim_of_scans rest (before ++ [c]) (by
          simp only [step, if_neg quote, if_neg slash, List.nil_append] at found ends
          refine Prod.ext ends (found.trans ?_)
          simp)
        exact verbatim_plain quote slash inner

theorem scans_quoted_iff (text : String) :
    Scans .code ('\'' :: (text.toList ++ ['\''])) .code [.literal text] ↔ Verbatim text.toList := by
  have opened : scan .code ('\'' :: (text.toList ++ ['\''])) = scan (.quoted []) (text.toList ++ ['\'']) := rfl
  have closed : Scans (.quoted text.toList) ['\''] .code [.literal (String.ofList text.toList)] := rfl
  rw [String.ofList_toList] at closed
  rw [Scans, opened]
  refine ⟨fun scanned => verbatim_of_scans text.toList [] ?_, fun own => ?_⟩
  · rwa [List.nil_append, String.ofList_toList]
  · exact scans_through (quotable_of_verbatim text.toList own []) closed

/-! ### Names -/

theorem names_from_code (c : Char) (own : isNameChar c = true) : InNames (fromCode c).1 := by
  have other : ∀ mark ∈ ['\'', '/', '?', '#'], c ≠ mark := by
    rintro mark member rfl
    have marks : ['\'', '/', '?', '#'].all (fun mark => !isNameChar mark) = true := by decide
    have free := List.all_eq_true.mp marks c member
    rw [own] at free
    cases free
  rw [fromCode, if_neg (other _ (by decide)), if_neg (other _ (by decide)), if_neg (other _ (by decide)),
    if_neg (other _ (by decide))]
  split
  · exact .inl rfl
  · split
    · exact .inr ⟨_, rfl⟩
    · exact .inl rfl

theorem scan_names (mode : Mode) (text : List Char) (begun : InNames mode) (own : ∀ c ∈ text, isNameChar c = true) :
    InNames (scan mode text).1 := by
  induction text generalizing mode with
  | nil => exact begun
  | cons c rest ih =>
      obtain ⟨first, others⟩ := List.forall_mem_cons.mp own
      refine ih _ ?_ others
      rcases begun with rfl | ⟨word, rfl⟩
      · exact names_from_code c first
      · rw [step]
        split
        · exact .inr ⟨_, rfl⟩
        · exact names_from_code c first

/-! ### Sources -/

theorem scan_append (mode : Mode) (text rest : List Char) :
    (scan mode (text ++ rest)).1 = (scan (scan mode text).1 rest).1 := by
  have whole : scan mode (text ++ rest) = _ := scans_append rfl rfl
  rw [whole]

theorem guarded_append (mode : Mode) (fragments more : List Fragment) :
    Guarded mode (fragments ++ more) ↔ Guarded mode fragments ∧ Guarded (scan mode (written fragments)).1 more := by
  induction fragments generalizing mode with
  | nil => simp [Guarded, written, scan]
  | cons fragment rest ih =>
      rw [List.cons_append, Guarded, Guarded, ih, and_assoc, ← scan_append]
      rfl

-- From some places on, fragments are guarded exactly if all their texts are safe, and then lead to other places.
def Sound (first : Mode → Prop) (fragments : List Fragment) (last : Mode → Prop) : Prop :=
  ∀ mode, first mode → (Guarded mode fragments ↔ ∀ fragment ∈ fragments, fragment.Safe) ∧
    ((∀ fragment ∈ fragments, fragment.Safe) → last (scan mode (written fragments)).1)

section

variable {first middle last : Mode → Prop} {fragments more : List Fragment}

theorem sound_nil (places : Mode → Prop) : Sound places [] places := fun _ begun => ⟨by simp [Guarded], fun _ => begun⟩

theorem sound_mono (own : Sound first fragments middle) (weaker : ∀ mode, middle mode → last mode) :
    Sound first fragments last :=
  fun mode begun => ⟨(own mode begun).1, fun safe => weaker _ ((own mode begun).2 safe)⟩

theorem sound_append (own : Sound first fragments middle) (others : Sound middle more last) :
    Sound first (fragments ++ more) last := by
  intro mode begun
  obtain ⟨guarded, leads⟩ := own mode begun
  rw [guarded_append, guarded, List.forall_mem_append, written_append, scan_append]
  refine ⟨and_congr_right fun safe => (others _ (leads safe)).1, ?_⟩
  rintro ⟨safe, rest⟩
  exact (others _ (leads safe)).2 rest

theorem sound_cons {fragment : Fragment} (own : Sound first [fragment] middle) (others : Sound middle fragments last) :
    Sound first (fragment :: fragments) last :=
  sound_append own others

theorem sound_flat {α : Type} {places : Mode → Prop} (items : List α) (parts : α → List Fragment)
    (each : ∀ item, Sound places (parts item) places) : Sound places (items.flatMap parts) places := by
  induction items with
  | nil => exact sound_nil places
  | cons item rest ih => exact sound_append (each item) ih

theorem sound_if {places : Mode → Prop} (holds : Bool) (own : Sound places fragments places) :
    Sound places (if holds then fragments else []) places := by
  cases holds with
  | true => exact own
  | false => exact sound_nil places

theorem sound_of_stays (fragment : Fragment) (stays : ∀ mode, first mode → (Stays mode fragment ↔ fragment.Safe))
    (leads : ∀ mode, first mode → fragment.Safe → last (scan mode fragment.chars).1) : Sound first [fragment] last := by
  intro mode begun
  simp only [Guarded, and_true, List.forall_mem_singleton]
  refine ⟨stays mode begun, ?_⟩
  rw [written, List.flatMap_cons, List.flatMap_nil, List.append_nil]
  exact leads mode begun

theorem sound_marks (text : String) (next : Mode) (leads : ∀ mode, first mode → (scan mode text.toList).1 = next) :
    Sound first [.marks text] (At next) :=
  sound_of_stays _ (fun _ _ => .rfl) fun mode begun _ => leads mode begun

theorem sound_marks_at (text : String) (here next : Mode) (leads : (scan here text.toList).1 = next) :
    Sound (At here) [.marks text] (At next) :=
  sound_marks text next fun _ begun => begun ▸ leads

theorem sound_marks_block (text : String) (leads : ∀ star, (scan (.block star) text.toList).1 = .block false) :
    Sound InBlock [.marks text] (At (.block false)) := by
  refine sound_marks text _ ?_
  rintro _ ⟨star, rfl⟩
  exact leads star

theorem sound_marks_names (text : String) (next : Mode) (code : (scan .code text.toList).1 = next)
    (word : ∀ name, (scan (.word name) text.toList).1 = next) : Sound InNames [.marks text] (At next) := by
  refine sound_marks text _ ?_
  rintro _ (rfl | ⟨name, rfl⟩)
  · exact code
  · exact word name

theorem sound_comment (text : String) : Sound (At (.block false)) [.comment text] InBlock := by
  have stays : (∀ front, front <+: text.toList → InBlock (scan (.block false) front).1) ↔
      ¬['*', '/'] <:+: text.toList := by
    rw [scan_block_stays]
    simp
  refine sound_of_stays _ ?_ ?_
  · rintro _ rfl
    exact stays
  · rintro _ rfl safe
    exact stays.mpr safe text.toList (List.prefix_refl _)

theorem sound_remark (text : String) : Sound (At (.line false)) [.remark text] InLine := by
  have stays : (∀ front, front <+: text.toList → InLine (scan (.line false) front).1) ↔
      '\n' ∉ text.toList ∧ '\r' ∉ text.toList ∧ ¬['?', '>'] <:+: text.toList := by
    rw [scan_line_stays, and_assoc]
    simp
  refine sound_of_stays _ ?_ ?_
  · rintro _ rfl
    exact stays
  · rintro _ rfl safe
    exact stays.mpr safe text.toList (List.prefix_refl _)

theorem sound_quoted (front text back : String) : Sound (At .code) [.quoted front text back] (At .code) := by
  refine sound_of_stays _ ?_ ?_
  · rintro _ rfl
    exact scans_quoted_iff (front ++ text ++ back)
  · rintro _ rfl safe
    exact congrArg Prod.fst ((scans_quoted_iff (front ++ text ++ back)).mpr safe)

theorem sound_name (text : String) : Sound (At .code) [.name text] InNames := by
  refine sound_of_stays _ (fun _ _ => .rfl) ?_
  rintro _ rfl safe
  exact scan_names .code text.toList (.inl rfl) safe

end

end StubForge.Php
