import MockGen.Proofs.Comparison.Table
import MockGen.Proofs.Header.Comments
import MockGen.Proofs.Pattern.Search

/-!
# Helper files

A helper file is made of comments, of lines that define assertions and of white space between them.
Comments are taken out of it, line comments first, and what is left defines what the table gets:
each assertion by the part of its name behind the common one.  A block comment is taken out as a
whole if no line comment seems to start where it ends; otherwise it goes on up to the end of the
next one, and hides the definitions between them.
-/

namespace MockGen.Helper

open List Text Anchor Cursor Bool Nat Header

/-- The line that defines an assertion for values. -/
structure Definition where
  name : List Char
  first : List Char
  others : List (List Char)
  replacement : List Char
  name_word : name ≠ [] ∧ ∀ c ∈ name, isWord c = true
  name_value : ¬"_ARRAY".toList <:+: name
  first_word : first ≠ [] ∧ ∀ c ∈ first, isWord c = true
  others_word : ∀ parameter ∈ others, parameter ≠ [] ∧ ∀ c ∈ parameter, isWord c = true
  four_parameters : others.length = 3
  oneLine : '\n' ∉ replacement
  noLineComment : ¬['/', '/'] <:+: replacement
  noBlockComment : ¬['/', '*'] <:+: replacement

variable {w : List Char}

namespace Definition

/-- The parameters behind the first one, with their commas. -/
def more (others : List (List Char)) : List Char :=
  others.flatMap (',' :: ·)

def macroName (d : Definition) : List Char :=
  "UNITY_TEST_ASSERT_EQUAL_".toList ++ d.name

/-- What the line defines. -/
def front (d : Definition) : List Char :=
  "#define".toList ++ ' ' :: (d.macroName ++ '(' :: (d.first ++ (more d.others ++ [')'])))

def text (d : Definition) : List Char :=
  d.front ++ d.replacement

theorem front_append (d : Definition) (y : List Char) :
    d.front ++ y = "#define".toList ++ ([' '] ++ ("UNITY_TEST_ASSERT_EQUAL_".toList ++
      (d.name ++ '(' :: (d.first ++ (more d.others ++ ')' :: y))))) := by
  unfold front macroName
  generalize "#define".toList = define
  generalize "UNITY_TEST_ASSERT_EQUAL_".toList = common
  simp

end Definition

/-- A part of a helper file. -/
inductive Part where
  | block (body : List Char) (closed : ¬['*', '/'] <:+: body)
  | note (comment : List Char) (oneLine : '\n' ∉ comment)
  | definition (d : Definition)
  | gap (space : List Char) (ne_nil : space ≠ []) (blank : ∀ c ∈ space, isBlank c = true)

variable {parts : List Part}

namespace Part

def text : Part → List Char
  | block body _ => '/' :: '*' :: (body ++ ['*', '/'])
  | note comment _ => '/' :: '/' :: comment
  | definition d => d.text
  | gap space _ _ => space

/-- Whether a part takes the rest of its line. -/
def endsLine : Part → Bool
  | note _ _ | definition _ => true
  | _ => false

def defined : Part → List Definition
  | definition d => [d]
  | _ => []

/-- Whether a line comment seems to start in the last line of a block comment: then the end of the
comment is taken for a part of it. -/
def cut (body : List Char) : Bool :=
  hasPart ['/', '/'] (lastLine body)

/-- What is left of a part when line comments are gone. -/
def bared : Part → List Char
  | block body _ => '/' :: '*' ::
      (dropLineComments false body ++ if cut body then [] else ['*', '/'])
  | note _ _ => []
  | definition d => d.text
  | gap space _ _ => space

/-- What is left of a part when all comments are gone. -/
def kept : Part → List Char
  | definition d => d.text
  | gap space _ _ => space
  | _ => []

end Part

def text (parts : List Part) : List Char :=
  parts.flatMap Part.text

/-- The definitions of a helper file. -/
def definitions (parts : List Part) : List Definition :=
  parts.flatMap Part.defined

/-- Line comments and definitions stand at the ends of their lines. -/
def Lined : List Part → Prop
  | [] => True
  | part :: rest => (part.endsLine = true → ∀ c ∈ (text rest).head?, c = '\n') ∧ Lined rest

/-- No line comment seems to start in the last line of a block comment or at its end. -/
def Legible : List Part → Prop
  | [] => True
  | .block body _ :: rest => ¬['/', '/'] <:+: lastLine body ∧
      (text rest).head? ≠ some '/' ∧ Legible rest
  | _ :: rest => Legible rest

/-- A block comment that is cut ends its line and is closed by a later one that is not cut, with no
closing mark between them. -/
def Bounded : (hidden : Bool) → List Part → Prop
  | hidden, [] => hidden = false
  | hidden, .block body _ :: rest => (hidden = true → body.head? ≠ some '/') ∧
      (if Part.cut body then ∀ c ∈ (text rest).head?, c = '\n'
        else (text rest).head? ≠ some '/') ∧ Bounded (Part.cut body) rest
  | hidden, .definition d :: rest =>
      (hidden = true → ¬['*', '/'] <:+: d.replacement) ∧ Bounded hidden rest
  | hidden, _ :: rest => Bounded hidden rest

/-- The parts that are read: a block comment that is cut hides what follows, up to the next one that
is not. -/
def visible : (hidden : Bool) → List Part → List Part
  | _, [] => []
  | _, .block body closed :: rest =>
    if Part.cut body then visible true rest else .block body closed :: visible false rest
  | hidden, part :: rest => if hidden then visible true rest else part :: visible false rest

theorem cut_eq_false_iff {body : List Char} :
    Part.cut body = false ↔ ¬['/', '/'] <:+: lastLine body := by
  rw [← hasPart_iff, Part.cut, not_eq_true]

/-- In a legible file nothing is hidden. -/
theorem Legible.visible_eq (h : Legible parts) :
    Bounded false parts ∧ visible false parts = parts := by
  induction parts with
  | nil => exact ⟨rfl, rfl⟩
  | cons part rest ih =>
    cases part with
    | block body closed =>
      obtain ⟨hlast, hnext, hrest⟩ := h
      obtain ⟨hbounded, hvisible⟩ := ih hrest
      have hcut := cut_eq_false_iff.mpr hlast
      refine ⟨⟨nofun, ?_, hcut ▸ hbounded⟩, ?_⟩
      · rwa [if_neg (eq_false_iff.mp hcut)]
      · rw [visible, if_neg (eq_false_iff.mp hcut), hvisible]
    | note comment oneLine => exact ⟨(ih h).1, congrArg (_ :: ·) (ih h).2⟩
    | definition d => exact ⟨⟨nofun, (ih h).1⟩, congrArg (_ :: ·) (ih h).2⟩
    | gap space ne_nil blank => exact ⟨(ih h).1, congrArg (_ :: ·) (ih h).2⟩

/-! ## Taking comments out -/

theorem Definition.mem_front {d : Definition} {c : Char} (h : c ∈ d.front) :
    isWord c = true ∨ c ∈ "# (,)".toList := by
  have hdefine : ∀ c ∈ "#define".toList, isWord c = true ∨ c ∈ "# (,)".toList := by decide
  have hcommon : ∀ c ∈ "UNITY_TEST_ASSERT_EQUAL_".toList, isWord c = true := by decide
  have hsign : ∀ {a}, a ∈ "# (,)".toList → c = a → isWord c = true ∨ c ∈ "# (,)".toList :=
    fun ha h => .inr (h ▸ ha)
  rcases mem_append.mp h with h | h
  · exact hdefine c h
  rcases mem_cons.mp h with h | h
  · exact hsign (by decide) h
  rcases mem_append.mp h with h | h
  · exact .inl ((mem_append.mp h).elim (hcommon c) (d.name_word.2 c))
  rcases mem_cons.mp h with h | h
  · exact hsign (by decide) h
  rcases mem_append.mp h with h | h
  · exact .inl (d.first_word.2 c h)
  rcases mem_append.mp h with h | h
  · obtain ⟨parameter, hparameter, h⟩ := mem_flatMap.mp h
    rcases mem_cons.mp h with h | h
    · exact hsign (by decide) h
    · exact .inl ((d.others_word parameter hparameter).2 c h)
  · exact hsign (by decide) (mem_singleton.mp h)

theorem Definition.newline_notMem (d : Definition) : '\n' ∉ d.text := by
  intro h
  rcases mem_append.mp h with h | h
  · exact absurd (mem_front h) (by decide)
  · exact d.oneLine h

/-- A mark of comments would have to stand in the replacement. -/
theorem Definition.apart {d : Definition} {a b : Char} (ha : isWord a = false ∧ a ∉ "# (,)".toList)
    (h : ¬[a, b] <:+: d.replacement) : ¬[a, b] <:+: d.text := by
  intro hpart
  have hfront : a ∉ d.front := by
    intro hmem
    rcases mem_front hmem with hword | hsign
    · exact absurd (hword.symm.trans ha.1) (by decide)
    · exact ha.2 hsign
  rcases infix_append_iff.mp hpart with hpart | hrest | ⟨x, y, heq, hx, hy⟩
  · exact hfront (hpart.subset mem_cons_self)
  · exact h hrest
  · cases x with
    | nil =>
      obtain rfl : [a, b] = y := heq
      exact h hy.isInfix
    | cons c x =>
      obtain rfl := (List.cons.inj heq).1
      exact hfront (hx.subset mem_cons_self)

theorem slash_notMem_blank (h : ∀ c ∈ w, isBlank c = true) : '/' ∉ w :=
  fun hmem => absurd (h '/' hmem) (by decide)

theorem not_infix_of_notMem {a b : Char} {t : List Char} (h : a ∉ t) : ¬[a, b] <:+: t :=
  fun hpart => h (hpart.subset mem_cons_self)

theorem dropLineComments_text {hidden : Bool} (hlined : Lined parts)
    (hbounded : Bounded hidden parts) :
    dropLineComments false (text parts) = parts.flatMap Part.bared := by
  induction parts generalizing hidden with
  | nil => rfl
  | cons part rest ih =>
    have hrest : text (part :: rest) = part.text ++ text rest := rfl
    rw [hrest, flatMap_cons]
    obtain ⟨hends, hlined⟩ := hlined
    cases part with
    | block body closed =>
      obtain ⟨-, hnext, hbounded⟩ := hbounded
      -- The opening mark, the body and the closing mark are gone through one after the other.
      have hsplit : (Part.block body closed).text ++ text rest =
          ['/', '*'] ++ (body ++ (['*', '/'] ++ text rest)) := by
        simp [Part.text]
      have hmark : ∀ {a b : Char}, a ≠ '/' ∨ b ≠ '/' →
          ∀ l, l <:+ [a, b] → '\n' ∉ l → ¬['/', '/'] <:+: l := by
        rintro a b hab l hl - hpart
        have hsub := hpart.trans hl.isInfix
        obtain ⟨rfl, rfl⟩ : '/' = a ∧ '/' = b := by simpa using hsub.eq_of_length rfl
        simp at hab
      rw [hsplit, dropLineComments_append false nofun (hmark (by decide)) (by simp),
        Part.bared]
      cases hcut : Part.cut body with
      | true =>
        rw [hcut, if_pos rfl] at hnext
        obtain ⟨x, l, rfl, hl⟩ := exists_mark_of_lastLine (hasPart_iff.mp hcut)
        rw [dropLineComments_append_of_mark hl (by decide) hnext, ih hlined hbounded]
        simp
        rfl
      | false =>
        rw [hcut, if_neg (by decide)] at hnext
        have hbody : ∀ l, l <:+ body → '\n' ∉ l → ¬['/', '/'] <:+: l := fun l hl hline hpart =>
          cut_eq_false_iff.mp hcut (hpart.trans (suffix_lastLine hl hline).isInfix)
        rw [dropLineComments_append false nofun hbody (by simp),
          dropLineComments_append false nofun (hmark (by decide)) fun _ => hnext,
          ih hlined hbounded]
        simp
        rfl
    | note comment oneLine =>
      rw [Part.text, cons_append, cons_append,
        dropLineComments_note oneLine (hends rfl), ih hlined hbounded]
      rfl
    | definition d =>
      have hapart := Definition.apart (by decide) d.noLineComment
      have hnext : (text rest).head? ≠ some '/' :=
        fun hhead => absurd (hends rfl '/' hhead) (by decide)
      rw [Part.text, dropLineComments_append false nofun
          (fun l hl _ hpart => hapart (hpart.trans hl.isInfix)) (fun _ => hnext),
        dropLineComments_eq_self hapart, ih hlined hbounded.2]
      rfl
    | gap space ne_nil blank =>
      have hslash := slash_notMem_blank blank
      rw [Part.text, dropLineComments_append false nofun
          (fun l hl _ hpart => not_infix_of_notMem hslash (hpart.trans hl.isInfix))
          (fun hlast => absurd (mem_of_getLast? hlast) hslash),
        dropLineComments_eq_self (not_infix_of_notMem hslash), ih hlined hbounded]
      rfl

/-- What stands at the end of a line begins with white space, which is left as it is. -/
theorem exists_gap (h : ∀ c ∈ (text parts).head?, c = '\n') :
    parts = [] ∨
      ∃ space ne_nil blank rest, parts = Part.gap ('\n' :: space) ne_nil blank :: rest := by
  cases parts with
  | nil => exact .inl rfl
  | cons part rest =>
    cases part with
    | block body closed => exact absurd (h '/' rfl) (by decide)
    | note comment oneLine => exact absurd (h '/' rfl) (by decide)
    | definition d => exact absurd (h '#' rfl) (by decide)
    | gap space ne_nil blank =>
      obtain ⟨c, space, rfl⟩ := exists_cons_of_ne_nil ne_nil
      obtain rfl := h c rfl
      exact .inr ⟨space, ne_nil, blank, rest, rfl⟩

theorem head?_bared_ne_star (parts : List Part) : (parts.flatMap Part.bared).head? ≠ some '*' := by
  induction parts with
  | nil => nofun
  | cons part rest ih =>
    rw [flatMap_cons]
    cases part with
    | block body closed => exact fun h => absurd (Option.some.inj h) (by decide)
    | note comment oneLine => exact ih
    | definition d => exact fun h => absurd (Option.some.inj h) (by decide)
    | gap space ne_nil blank =>
      obtain ⟨c, w, rfl⟩ := exists_cons_of_ne_nil ne_nil
      intro h
      obtain rfl : c = '*' := Option.some.inj h
      exact absurd (blank '*' mem_cons_self) (by decide)

/-- A block comment that stands in another one does not close it by its opening mark. -/
theorem not_infix_opened {body : List Char} (closed : ¬['*', '/'] <:+: body)
    (hstart : body.head? ≠ some '/') :
    ¬['*', '/'] <:+: '/' :: '*' :: dropLineComments false body := by
  intro hpart
  rcases infix_cons_iff.mp hpart with ⟨rest, hrest⟩ | hpart
  · exact absurd (List.cons.inj hrest).1 (by decide)
  rcases infix_cons_iff.mp hpart with ⟨rest, hrest⟩ | hpart
  · have hhead : (dropLineComments false body).head? = some '/' := by
      rw [← (List.cons.inj hrest).2]
      rfl
    obtain hline | ⟨-, hslash⟩ := head?_dropLineComments '/' hhead
    · exact absurd hline (by decide)
    · exact hstart hslash
  · exact closed (infix_of_dropLineComments hpart).2

/-- A part without marks of block comments is kept outside of them and skipped in them. -/
theorem dropBlocks_plain {u v : List Char} (hidden : Bool) (hopen : ¬['/', '*'] <:+: u)
    (hclose : hidden = true → ¬['*', '/'] <:+: u)
    (hv : u.getLast? = some '/' → v.head? ≠ some '*')
    (hv' : hidden = true → u.getLast? = some '*' → v.head? ≠ some '/') :
    dropBlocks hidden 0 (u ++ v) =
      (if hidden then [] else u) ++ dropBlocks hidden 0 v := by
  cases hidden with
  | false => exact dropBlocks_append hopen hv
  | true => exact dropBlocks_inside (hclose rfl) (hv' rfl)

theorem kept_visible_cons (part : Part) (hpart : ∀ body closed, part ≠ .block body closed)
    (hidden : Bool) (rest : List Part) :
    (visible hidden (part :: rest)).flatMap Part.kept =
      (if hidden then [] else part.kept) ++ (visible hidden rest).flatMap Part.kept := by
  cases part with
  | block body closed => exact absurd rfl (hpart body closed)
  | note comment oneLine => cases hidden <;> rfl
  | definition d => cases hidden <;> rfl
  | gap space ne_nil blank => cases hidden <;> rfl

/-- Blocks are taken out from a place outside of them or in one that is cut, and one of those finds
its end. -/
theorem dropBlocks_bared {hidden : Bool} (hlined : Lined parts) (hbounded : Bounded hidden parts) :
    dropBlocks hidden 0 (parts.flatMap Part.bared) =
        (visible hidden parts).flatMap Part.kept ∧
      (hidden = true → ['*', '/'] <:+: parts.flatMap Part.bared) := by
  induction parts generalizing hidden with
  | nil =>
    obtain rfl : hidden = false := hbounded
    exact ⟨rfl, nofun⟩
  | cons part rest ih =>
    obtain ⟨hends, hlined⟩ := hlined
    have hinfix (h : ['*', '/'] <:+: rest.flatMap Part.bared) :
        ['*', '/'] <:+: (part :: rest).flatMap Part.bared :=
      h.trans (suffix_append part.bared _).isInfix
    cases part with
    | block body closed =>
      obtain ⟨hstart, hnext, hbounded⟩ := hbounded
      obtain ⟨hrest, hpart⟩ := ih hlined hbounded
      have hinner : ¬['*', '/'] <:+: dropLineComments false body :=
        fun h => closed (infix_of_dropLineComments h).2
      cases hcut : Part.cut body with
      | true =>
        rw [hcut] at hnext hrest hpart
        have hsplit : (Part.block body closed :: rest).flatMap Part.bared =
            '/' :: '*' :: (dropLineComments false body ++ rest.flatMap Part.bared) := by
          simp [Part.bared, hcut]
        have hslash : (rest.flatMap Part.bared).head? ≠ some '/' := by
          obtain rfl | ⟨space, ne_nil, blank, rest, rfl⟩ := exists_gap hnext
          · nofun
          · exact fun h => absurd (Option.some.inj h) (by decide)
        refine ⟨?_, fun _ => hinfix (hpart rfl)⟩
        rw [visible, if_pos hcut, ← hrest, hsplit]
        cases hidden with
        | false =>
          rw [dropBlocks_open ((hpart rfl).trans (suffix_append _ _).isInfix),
            dropBlocks_inside hinner fun _ => hslash]
        | true =>
          rw [← cons_append, ← cons_append,
            dropBlocks_inside (not_infix_opened closed (hstart rfl)) fun _ => hslash]
      | false =>
        rw [hcut] at hrest
        have hsplit : (Part.block body closed :: rest).flatMap Part.bared =
            '/' :: '*' :: (dropLineComments false body ++
              '*' :: '/' :: rest.flatMap Part.bared) := by
          simp [Part.bared, hcut]
        refine ⟨?_, fun _ => ⟨'/' :: '*' :: dropLineComments false body,
          rest.flatMap Part.bared, by simp [hsplit]⟩⟩
        rw [visible, if_neg (eq_false_iff.mp hcut), hsplit]
        refine Eq.trans ?_ hrest
        cases hidden with
        | false => exact dropBlocks_block hinner _
        | true =>
          rw [← cons_append, ← cons_append,
            dropBlocks_inside (not_infix_opened closed (hstart rfl)) (by simp)]
          rfl
    | note comment oneLine =>
      obtain ⟨hrest, hpart⟩ := ih hlined hbounded
      rw [kept_visible_cons (.note comment oneLine) (fun _ _ => nofun), ← hrest]
      exact ⟨by cases hidden <;> rfl, hpart⟩
    | definition d =>
      obtain ⟨hrest, hpart⟩ := ih hlined hbounded.2
      refine ⟨?_, fun h => hinfix (hpart h)⟩
      rw [kept_visible_cons (.definition d) (fun _ _ => nofun), ← hrest]
      refine dropBlocks_plain hidden (Definition.apart (by decide) d.noBlockComment)
        (fun h => Definition.apart (by decide) (hbounded.1 h)) (fun _ => head?_bared_ne_star rest)
        fun _ _ => ?_
      obtain rfl | ⟨space, ne_nil, blank, rest, rfl⟩ := exists_gap (hends rfl)
      · nofun
      · exact fun h => absurd (Option.some.inj h) (by decide)
    | gap space ne_nil blank =>
      obtain ⟨hrest, hpart⟩ := ih hlined hbounded
      have hslash := slash_notMem_blank blank
      have hstar : '*' ∉ space := fun hmem => absurd (blank '*' hmem) (by decide)
      refine ⟨?_, fun h => hinfix (hpart h)⟩
      rw [kept_visible_cons (.gap space ne_nil blank) (fun _ _ => nofun), ← hrest]
      exact dropBlocks_plain hidden (not_infix_of_notMem hslash)
        (fun _ => not_infix_of_notMem hstar)
        (fun hlast => absurd (mem_of_getLast? hlast) hslash)
        (fun _ hlast => absurd (mem_of_getLast? hlast) hstar)

theorem lined_visible (hidden : Bool) (h : Lined parts) : Lined (visible hidden parts) := by
  induction parts generalizing hidden with
  | nil => trivial
  | cons part rest ih =>
    obtain ⟨hends, hlined⟩ := h
    have hkept (hpart : part.endsLine = true) :
        ∀ c ∈ (text (visible false rest)).head?, c = '\n' := by
      obtain rfl | ⟨space, ne_nil, blank, rest, rfl⟩ := exists_gap (hends hpart)
      · nofun
      · exact hends hpart
    cases part with
    | block body closed =>
      rw [visible]
      split_ifs
      · exact ih true hlined
      · exact ⟨nofun, ih false hlined⟩
    | note comment oneLine =>
      cases hidden with
      | false => exact ⟨hkept, ih false hlined⟩
      | true => exact ih true hlined
    | definition d =>
      cases hidden with
      | false => exact ⟨hkept, ih false hlined⟩
      | true => exact ih true hlined
    | gap space ne_nil blank =>
      cases hidden with
      | false => exact ⟨nofun, ih false hlined⟩
      | true => exact ih true hlined

/-! ## Reading a definition -/

section

open Pattern Comparisons

variable {y before rest u x : List Char} {others : List (List Char)}

theorem run_parameter {β : Type} {q : Progress} {k : Progress → Option β} {x : β}
    (hrest : q.cursor.rest = w ++ y) (hw : w ≠ [] ∧ ∀ c ∈ w, isWord c = true)
    (hy : ∀ c ∈ y.head?, isWord c = false ∧ isBlank c = false)
    (hk : k ⟨q.cursor.past w y, q.groups⟩ = some x) : parameter.run q k = some x := by
  obtain ⟨hne, hw⟩ := hw
  have hhead : ∀ c ∈ (w ++ y).head?, isBlank c = false := by
    obtain ⟨d, w, rfl⟩ := exists_cons_of_ne_nil hne
    rintro c ⟨⟩
    exact isBlank_of_isWord (hw d mem_cons_self)
  rw [parameter, run_append, run_append]
  refine run_span_exact (u := []) hrest (zero_le _) (by simp) hhead ?_
  refine run_span_exact rfl (length_pos_iff.mpr hne) hw (fun c hc => (hy c hc).1) ?_
  refine run_span_exact (u := []) rfl (zero_le _) (by simp) (fun c hc => (hy c hc).2) ?_
  simpa using hk

/-- A sign follows each parameter. -/
theorem head?_more (hy : ∀ c ∈ y.head?, isWord c = false ∧ isBlank c = false) :
    ∀ c ∈ (Definition.more others ++ y).head?, isWord c = false ∧ isBlank c = false := by
  cases others with
  | nil => exact hy
  | cons w others =>
    rintro c ⟨⟩
    decide

theorem run_moreParameters {β : Type} {q : Progress} {k : Progress → Option β} {x : β}
    (hrest : q.cursor.rest = Definition.more others ++ y)
    (hothers : ∀ w ∈ others, w ≠ [] ∧ ∀ c ∈ w, isWord c = true)
    (hy : ∀ c ∈ y.head?, isWord c = false ∧ isBlank c = false)
    (hk : k ⟨q.cursor.past (Definition.more others) y, q.groups⟩ = some x) :
    (moreParameters others.length).run q k = some x := by
  induction others generalizing q with
  | nil =>
    obtain ⟨⟨before, _, pos⟩, groups⟩ := q
    obtain rfl : _ = y := hrest
    exact hk
  | cons w others ih =>
    obtain ⟨hw, hothers⟩ := forall_mem_cons.mp hothers
    have hsplit : q.cursor.rest = ',' :: (w ++ (Definition.more others ++ y)) := by
      rw [hrest]
      simp [Definition.more]
    rw [length_cons, moreParameters, run_append, run_append, char,
      run_one_past hsplit (by decide)]
    refine run_parameter rfl hw (head?_more hy) (ih rfl hothers ?_)
    simpa [Definition.more] using hk

/-- The definition of an assertion for values is found where its line starts. -/
theorem matchHere?_definition (d : Definition)
    (hstart : lineStart.holds ⟨before, [], 0⟩ = true) (hw : ∀ c ∈ w, isBlank c = true)
    (y : List Char) (pos : Nat) :
    ∃ m, (definition "" 3).matchHere? false ⟨before, w ++ (d.front ++ y), pos⟩ = some m ∧
      m.last = ⟨(w ++ d.front).reverse ++ before, y, pos + (w ++ d.front).length⟩ ∧
      m.group 1 = d.macroName ∧ m.group 2 = d.name := by
  obtain ⟨C, hC⟩ : ∃ C : Cursor, C = ⟨before, w ++ (d.front ++ y), pos⟩ := ⟨_, rfl⟩
  let tail := '(' :: (d.first ++ (Definition.more d.others ++ ')' :: y))
  have hrest : C.rest = w ++ ("#define".toList ++ ([' '] ++
      ("UNITY_TEST_ASSERT_EQUAL_".toList ++ (d.name ++ tail)))) := by
    rw [hC, Definition.front_append]
  rw [← hC]
  -- The places in front of the name, in front of its second part and behind it.
  let D := ((C.past w []).past "#define".toList []).past [' ']
    ("UNITY_TEST_ASSERT_EQUAL_".toList ++ (d.name ++ tail))
  let E := D.past "UNITY_TEST_ASSERT_EQUAL_".toList (d.name ++ tail)
  let F := E.past d.name tail
  let last := ((((F.past [] []).past ['('] []).past d.first []).past
    (Definition.more d.others) []).past [')'] y
  have hmatch : (definition "" 3).matchHere? false C = some ⟨C, last, [(1, D, F), (2, E, F)]⟩ := by
    rw [matchHere?]
    simp only [Bool.false_and, false_eq_true, if_false]
    rw [definition]
    simp only [run_append, run_group]
    rw [run_place (hC ▸ hstart)]
    refine run_span_exact hrest (zero_le _) hw (by rintro c ⟨⟩; decide) ?_
    rw [run_text rfl]
    refine run_span_exact rfl (le_refl 1) (by decide) (by rintro c ⟨⟩; decide) ?_
    rw [run_text rfl]
    refine run_span_exact rfl (length_pos_iff.mpr d.name_word.1) d.name_word.2
      (by rintro c ⟨⟩; decide) ?_
    rw [show Pattern.text "" = empty from rfl, run]
    refine run_span_exact (u := []) rfl (zero_le _) (by simp) (by rintro c ⟨⟩; decide) ?_
    rw [char, run_one_past rfl (by decide)]
    refine run_parameter rfl d.first_word (head?_more (by rintro c ⟨⟩; decide)) ?_
    rw [← d.four_parameters]
    refine run_moreParameters rfl d.others_word (by rintro c ⟨⟩; decide) ?_
    rw [char, run_one_past rfl (by decide)]
    rfl
  refine ⟨_, hmatch, ?_, ?_, ?_⟩
  · have hfront := (append_nil _).symm.trans (d.front_append [])
    change last = (⟨before, w ++ (d.front ++ y), pos⟩ : Cursor).past (w ++ d.front) y
    rw [← hC, hfront]
    simp only [last, F, E, D, past_past, append_assoc]
    rfl
  · have hname : D.rest = d.macroName ++ tail := (append_assoc _ _ _).symm
    have hF : F = D.past d.macroName tail := past_past _ _ _ _ _
    change D.upTo F = d.macroName
    rw [hF, upTo_past hname]
  · exact upTo_past rfl

/-- What a definition is read from. -/
theorem reads_definition {ending : String} {n : Nat}
    (h : (definition ending n).Reads before u rest) :
    lineStart.holds ⟨before, u ++ rest, before.length⟩ = true ∧
    ∃ w b word gap tail,
      u = w ++ ("#define".toList ++ (b ++ ("UNITY_TEST_ASSERT_EQUAL_".toList ++
        (word ++ ending.toList ++ (gap ++ '(' :: tail))))) ∧
      (∀ c ∈ w, isBlank c = true) ∧ (∀ c ∈ b, isBlank c = true) ∧
      (∀ c ∈ word, isWord c = true) ∧ ∀ c ∈ gap, isBlank c = true := by
  obtain ⟨_, a, rfl, h, -⟩ := reads_append.mp h
  obtain ⟨_, b, rfl, h, -⟩ := reads_append.mp h
  obtain ⟨_, c, rfl, h, -⟩ := reads_append.mp h
  obtain ⟨_, paren, rfl, h, hparen⟩ := reads_append.mp h
  obtain ⟨_, gap, rfl, h, hgap⟩ := reads_append.mp h
  obtain ⟨_, name, rfl, h, hname⟩ := reads_append.mp h
  obtain ⟨_, white, rfl, h, hwhite⟩ := reads_append.mp h
  obtain ⟨_, define, rfl, h, hdefine⟩ := reads_append.mp h
  obtain ⟨start, w, rfl, hstart, hw⟩ := reads_append.mp h
  obtain ⟨common, _, rfl, hcommon, htype⟩ := reads_append.mp (reads_group.mp hname)
  obtain ⟨word, _, rfl, hword, hending⟩ := reads_append.mp (reads_group.mp htype)
  rw [reads_text] at hcommon hending hdefine
  rw [reads_char] at hparen
  obtain ⟨rfl, hstart⟩ := reads_place.mp hstart
  subst hcommon hending hdefine hparen
  refine ⟨by simpa using hstart, w, white, word, gap, c ++ b ++ a, by simp,
    reads_blanks.mp hw, (reads_blanks1.mp hwhite).2, (reads_stretch1.mp hword).2,
    reads_blanks.mp hgap⟩

theorem advances_definition (ending : String) (n : Nat) : (definition ending n).Advances := by
  rintro before u rest hread rfl
  obtain ⟨-, w, b, word, gap, tail, heq, -⟩ := reads_definition hread
  exact absurd (append_eq_nil_iff.mp heq.symm).2 (cons_ne_nil _ _)

/-! ## Going through the lines -/

theorem eq_of_append_eq {q : Char → Bool} {v : List Char} (hu : ∀ c ∈ u, q c = true)
    (hv : ∀ c ∈ v, q c = true) (hx : ∀ c ∈ x.head?, q c = false) (hy : ∀ c ∈ y.head?, q c = false)
    (h : u ++ x = v ++ y) : u = v ∧ x = y := by
  have hspan : ∀ {s t : List Char}, (∀ c ∈ s, q c = true) → (∀ c ∈ t.head?, q c = false) →
      (s ++ t).takeWhile q = s := by
    intro s t hs ht
    cases t with
    | nil => rw [append_nil, takeWhile_eq_self_iff.mpr hs]
    | cons c t =>
      rw [takeWhile_append_of_pos hs, takeWhile_cons_of_neg (by simp [ht c rfl]),
        append_nil]
  have huv : u = v := by rw [← hspan hu hx, h, hspan hv hy]
  subst huv
  exact ⟨rfl, append_cancel_left h⟩

/-- The line of an assertion for values is no definition of one for arrays. -/
theorem not_reads_arrays (d : Definition) {n : Nat} (hw : ∀ c ∈ w, isBlank c = true)
    (h : w ++ (d.text ++ y) = u ++ rest) : ¬(definition "_ARRAY" n).Reads before u rest := by
  intro hread
  obtain ⟨-, v, b, word, gap, tail, rfl, hv, hb, hword, hgap⟩ := reads_definition hread
  rw [Definition.text, append_assoc d.front, Definition.front_append] at h
  simp only [append_assoc] at h
  obtain ⟨-, h⟩ := eq_of_append_eq hw hv (by rintro c ⟨⟩; decide) (by rintro c ⟨⟩; decide) h
  obtain ⟨-, h⟩ := eq_of_append_eq (q := isBlank) (by decide) hb (by rintro c ⟨⟩; decide)
    (by rintro c ⟨⟩; decide) (append_cancel_left h)
  have h := append_cancel_left h
  rw [← append_assoc word] at h
  have hgap' : ∀ c ∈ (gap ++ ('(' :: tail ++ rest)).head?, isWord c = false := by
    cases gap with
    | nil =>
      rintro c ⟨⟩
      decide
    | cons c gap =>
      rintro c ⟨⟩
      exact isWord_of_isBlank (hgap c mem_cons_self)
  have hwords : ∀ c ∈ word ++ "_ARRAY".toList, isWord c = true :=
    forall_mem_append.mpr ⟨hword, by decide⟩
  obtain ⟨hname, -⟩ := eq_of_append_eq d.name_word.2 hwords (by rintro c ⟨⟩; decide) hgap' h
  exact d.name_value ⟨word, [], by rw [hname, append_nil]⟩

variable {ending : String} {n : Nat}

theorem matchHere?_inside_line {pos : Nat} (h : lineStart.holds ⟨before, [], 0⟩ = false) :
    (definition ending n).matchHere? false ⟨before, rest, pos⟩ = none := by
  refine matchHere?_eq_none fun u rest hrest hread => ?_
  exact absurd ((reads_definition hread).1.symm.trans h) (by decide)

theorem holds_lineStart_append (hne : x ≠ []) (hx : '\n' ∉ x) (before : List Char) :
    lineStart.holds ⟨x.reverse ++ before, [], 0⟩ = false := by
  obtain ⟨c, more, hc⟩ := exists_cons_of_ne_nil (reverse_ne_nil_iff.mpr hne)
  have hmem : c ∈ x := mem_reverse.mp (hc ▸ mem_cons_self)
  rw [hc]
  simp only [holds, cons_append, isEmpty_cons, head?_cons, Bool.false_or,
    beq_eq_false_iff_ne, ne_eq, Option.some.injEq]
  rintro rfl
  exact hx hmem

/-- Nothing is defined in the rest of a line. -/
theorem passes_line (h : lineStart.holds ⟨before, [], 0⟩ = false) (hx : '\n' ∉ x)
    (y : List Char) : (definition ending n).Passes before x y := by
  rintro a b u rest rfl hb hrest hread
  have hstart := (reads_definition hread).1
  cases a with
  | nil => exact absurd (hstart.symm.trans h) (by decide)
  | cons c a =>
    have ha : '\n' ∉ c :: a := fun hmem => hx (mem_append_left b hmem)
    have hinside := holds_lineStart_append (cons_ne_nil c a) ha before
    exact absurd (hstart.symm.trans hinside) (by decide)

/-- The groups of the definitions that are found from a place on. -/
def found (ending : String) (n : Nat) (c : Cursor) : List (List Char × List Char) :=
  ((definition ending n).hits c).map fun m => (m.group 1, m.group 2)

theorem found_append (h : (definition ending n).Passes before x y) (pos : Nat) :
    found ending n ⟨before, x ++ y, pos⟩ =
      found ending n ⟨x.reverse ++ before, y, pos + x.length⟩ := by
  rw [found, h.hits_append (advances_definition ending n), found]

theorem found_value (d : Definition) (hstart : lineStart.holds ⟨before, [], 0⟩ = true)
    (hw : ∀ c ∈ w, isBlank c = true) (y : List Char) (pos : Nat) :
    found "" 3 ⟨before, w ++ (d.text ++ y), pos⟩ = (d.macroName, d.name) ::
      found "" 3 ⟨(w ++ d.text).reverse ++ before, y, pos + (w ++ d.text).length⟩ := by
  obtain ⟨m, hm, hlast, hname, htype⟩ := matchHere?_definition d hstart hw (d.replacement ++ y) pos
  have hfront : lineStart.holds ⟨(w ++ d.front).reverse ++ before, [], 0⟩ = false := by
    rw [reverse_append, append_assoc]
    exact holds_lineStart_append (cons_ne_nil _ _)
      (fun hmem => d.newline_notMem (mem_append_left _ hmem)) _
  have hrest : found "" 3 m.last = _ :=
    hlast ▸ found_append (passes_line hfront d.oneLine y) (pos + (w ++ d.front).length)
  rw [found] at hrest
  rw [Definition.text, append_assoc d.front, found,
    hits_of_matchHere? (advances_definition "" 3) hm, map_cons, hname, htype, hrest]
  simp only [reverse_append, append_assoc, length_append, Nat.add_assoc]

theorem found_arrays (d : Definition) (hw : ∀ c ∈ w, isBlank c = true) (y : List Char)
    (pos : Nat) :
    found "_ARRAY" n ⟨before, w ++ (d.text ++ y), pos⟩ =
      found "_ARRAY" n ⟨(w ++ d.text).reverse ++ before, y, pos + (w ++ d.text).length⟩ := by
  have hpasses : (definition "_ARRAY" n).Passes before (w ++ d.text) y := by
    intro a b u rest hsplit hb hrest hread
    rcases List.append_eq_append_iff.mp hsplit with ⟨x, rfl, hx⟩ | ⟨x, rfl, rfl⟩
    · cases x with
      | nil =>
        obtain rfl : d.text = b := hx
        exact not_reads_arrays d (w := []) nofun hrest hread
      | cons c x =>
        -- Behind the first character of the definition no line starts.
        have hline : '\n' ∉ c :: x :=
          fun hmem => d.newline_notMem (hx ▸ mem_append_left b hmem)
        have hinside := holds_lineStart_append (cons_ne_nil c x) hline (w.reverse ++ before)
        rw [← append_assoc, ← reverse_append] at hinside
        exact absurd ((reads_definition hread).1.symm.trans hinside) (by decide)
    · have hx : ∀ c ∈ x, isBlank c = true := fun c hc => hw c (mem_append_right a hc)
      exact not_reads_arrays d hx (by rw [← hrest, append_assoc]) hread
  rw [← append_assoc]
  exact found_append hpasses pos

theorem found_blank (hw : ∀ c ∈ w, isBlank c = true) (before : List Char) (pos : Nat) :
    found ending n ⟨before, w, pos⟩ = [] := by
  have hpasses : (definition ending n).Passes before w [] := by
    rintro a b u rest rfl - hrest hread
    obtain ⟨-, v, white, word, gap, tail, rfl, -⟩ := reads_definition hread
    have hsign : '#' ∈ b := by
      rw [← append_nil b, hrest]
      exact mem_append_left rest (mem_append_right v mem_cons_self)
    exact absurd (hw '#' (mem_append_right a hsign)) (by decide)
  have happend := found_append hpasses pos
  rw [append_nil] at happend
  rw [happend, found, hits_nil (advances_definition ending n)]
  rfl

/-- Line by line, the definitions are found and nothing else.  The text is gone through from the
start of a line, with white space ahead, or from the end of one. -/
theorem found_kept (result : Definition → List (List Char × List Char))
    (hresult : ∀ (d : Definition) {before w : List Char},
      lineStart.holds ⟨before, [], 0⟩ = true → (∀ c ∈ w, isBlank c = true) →
      ∀ y pos, found ending n ⟨before, w ++ (d.text ++ y), pos⟩ = result d ++
        found ending n ⟨(w ++ d.text).reverse ++ before, y, pos + (w ++ d.text).length⟩)
    (hlined : Lined parts) :
    (∀ before w pos, lineStart.holds ⟨before, [], 0⟩ = true →
      (∀ c ∈ w, isBlank c = true) →
      found ending n ⟨before, w ++ parts.flatMap Part.kept, pos⟩ =
        (definitions parts).flatMap result) ∧
    ((∀ c ∈ (text parts).head?, c = '\n') →
      ∀ before pos, lineStart.holds ⟨before, [], 0⟩ = false →
      found ending n ⟨before, parts.flatMap Part.kept, pos⟩ =
        (definitions parts).flatMap result) := by
  induction parts with
  | nil =>
    refine ⟨fun before w pos hstart hw => ?_, fun _ before pos _ => found_blank (by simp) _ _⟩
    rw [flatMap_nil, append_nil]
    exact found_blank hw before pos
  | cons part rest ih =>
    obtain ⟨hends, hlined⟩ := hlined
    obtain ⟨hstarts, hinside⟩ := ih hlined
    cases part with
    | block body closed => exact ⟨hstarts, fun hhead => absurd (hhead '/' rfl) (by decide)⟩
    | note comment oneLine => exact ⟨hstarts, fun hhead => absurd (hhead '/' rfl) (by decide)⟩
    | definition d =>
      refine ⟨fun before w pos hstart hw => ?_, fun hhead => absurd (hhead '#' rfl) (by decide)⟩
      have hend : lineStart.holds ⟨(w ++ d.text).reverse ++ before, [], 0⟩ = false := by
        rw [reverse_append, append_assoc]
        exact holds_lineStart_append (cons_ne_nil _ _) d.newline_notMem _
      exact (hresult d hstart hw _ pos).trans
        (congrArg (result d ++ ·) (hinside (hends rfl) _ _ hend))
    | gap space ne_nil blank =>
      refine ⟨fun before w pos hstart hw => ?_, fun hhead before pos hbefore => ?_⟩
      · rw [flatMap_cons, ← append_assoc]
        exact hstarts before _ pos hstart (forall_mem_append.mpr ⟨hw, blank⟩)
      · obtain ⟨c, space, rfl⟩ := exists_cons_of_ne_nil ne_nil
        obtain rfl := hhead c rfl
        have hnone : (definition ending n).matchHere? false
            ⟨before, '\n' :: (space ++ rest.flatMap Part.kept), pos⟩ = none :=
          matchHere?_inside_line hbefore
        have hnext := hits_cons_of_none (advances_definition ending n) hnone
        have hspace : ∀ c ∈ space, isBlank c = true :=
          fun c hc => blank c (mem_cons_of_mem _ hc)
        exact (congrArg (List.map _) hnext).trans
          (hstarts ('\n' :: before) space (pos + 1) rfl hspace)

theorem definitions_eq_found (ending : String) (n : Nat) (t : List Char) :
    Comparisons.definitions ending n t = found ending n (Cursor.start t) := by
  rw [Comparisons.definitions, allMatches_eq_hits (advances_definition ending n)]
  rfl

theorem definitions_kept (hlined : Lined parts) :
    Comparisons.definitions "" 3 (parts.flatMap Part.kept) =
        (definitions parts).map (fun d => (d.macroName, d.name)) ∧
      Comparisons.definitions "_ARRAY" 4 (parts.flatMap Part.kept) = [] := by
  rw [definitions_eq_found, definitions_eq_found, map_eq_flatMap]
  constructor
  · exact (found_kept _ (fun d _ _ => found_value d) hlined).1 [] [] 0 rfl (by simp)
  · refine ((found_kept (fun _ => []) (fun d _ _ _ => found_arrays d) hlined).1 [] [] 0 rfl
      (by simp)).trans ?_
    exact flatMap_eq_nil_iff.mpr fun _ _ => rfl

end

/-! ## The table of a helper file -/

/-- A name for values holds the mark of arrays only together with the common part of the names. -/
theorem Definition.hasPart_macroName (d : Definition) :
    hasPart "_ARRAY".toList d.macroName = true ↔ "ARRAY".toList <+: d.name := by
  rw [hasPart_iff]
  unfold macroName
  constructor
  · intro hpart
    rcases infix_append_iff.mp hpart with h | h | ⟨x, y, heq, hx, hy⟩
    · exact absurd (hasPart_iff.mpr h) (by decide)
    · exact absurd h d.name_value
    · cases x with
      | nil =>
        obtain rfl : "_ARRAY".toList = y := heq
        exact absurd hy.isInfix d.name_value
      | cons c x =>
        have htail : "ARRAY".toList = x ++ y := (List.cons.inj heq).2
        have hx : x = [] := by
          by_contra hne
          -- The last character of `x` would be the one in front of the name.
          have hlast : (c :: x).getLast? = some '_' := by
            obtain ⟨common, hcommon⟩ := hx
            rw [← getLast?_append_of_ne_nil common (cons_ne_nil c x), hcommon]
            decide
          rw [getLast?_cons_of_ne_nil hne] at hlast
          have hmem : '_' ∈ "ARRAY".toList :=
            htail ▸ mem_append_left y (mem_of_getLast? hlast)
          exact absurd hmem (by decide)
        rw [hx] at htail
        exact htail ▸ hy
  · rintro ⟨rest, hrest⟩
    have hcommon : "UNITY_TEST_ASSERT_EQUAL".toList ++ "_ARRAY".toList =
        "UNITY_TEST_ASSERT_EQUAL_".toList ++ "ARRAY".toList := by decide
    refine ⟨"UNITY_TEST_ASSERT_EQUAL".toList, rest, ?_⟩
    rw [← hrest, ← append_assoc, hcommon]

theorem lookup_names (ds : List Definition) (type assertion : String) :
    (ds.map fun d => (String.ofList d.name, String.ofList d.macroName)).lookup type =
        some assertion ↔
      assertion = "UNITY_TEST_ASSERT_EQUAL_" ++ type ∧ ∃ d ∈ ds, d.name = type.toList := by
  induction ds with
  | nil => simp
  | cons d ds ih =>
    rw [map_cons, List.lookup_cons]
    by_cases h : type = String.ofList d.name
    · have hname : String.ofList d.macroName = "UNITY_TEST_ASSERT_EQUAL_" ++ type := by
        unfold Definition.macroName
        rw [String.ofList_append, String.ofList_toList, h]
      rw [beq_iff_eq.mpr h, hname]
      constructor
      · intro hassertion
        exact ⟨(Option.some.inj hassertion).symm, d, mem_cons_self,
          by rw [h, String.toList_ofList]⟩
      · rintro ⟨rfl, -⟩
        rfl
    · have hne : d.name ≠ type.toList := fun heq => h (by rw [heq, String.ofList_toList])
      rw [beq_eq_false_iff_ne.mpr h]
      refine ih.trans (and_congr_right fun _ => ?_)
      rw [exists_mem_cons_iff]
      exact (or_iff_right hne).symm

/-- The assertions that the visible lines define get into the table. -/
theorem lookup_of_bounded (hlined : Lined parts) (hbounded : Bounded false parts)
    (type assertion : String) :
    (Comparisons.ofHelperText (text parts)).lookup type = some assertion ↔
      assertion = "UNITY_TEST_ASSERT_EQUAL_" ++ type ∧ ¬"ARRAY".toList <+: type.toList ∧
        ∃ d ∈ definitions (visible false parts), d.name = type.toList := by
  obtain ⟨hvalues, harrays⟩ := definitions_kept (lined_visible false hlined)
  have htext : dropBlocks false 0 (dropLineComments false (text parts)) =
      (visible false parts).flatMap Part.kept := by
    rw [dropLineComments_text hlined hbounded, (dropBlocks_bared hlined hbounded).1]
  have htable : Comparisons.ofHelperText (text parts) =
      Comparisons.update [] (((definitions (visible false parts)).filter fun d =>
        !hasPart "_ARRAY".toList d.macroName).map fun d =>
          (String.ofList d.name, String.ofList d.macroName)) := by
    unfold Comparisons.ofHelperText
    dsimp only
    rw [htext, hvalues, harrays, map_nil, append_nil, filter_map, foldl_map,
      Comparisons.update, foldl_map]
    rfl
  rw [htable, Comparisons.lookup_update, ← map_reverse, lookup_nil, Option.or_none,
    lookup_names]
  refine and_congr_right fun _ => ?_
  simp only [mem_reverse, mem_filter, not_eq_true', ← not_eq_true,
    Definition.hasPart_macroName]
  constructor
  · rintro ⟨d, ⟨hd, harray⟩, hname⟩
    exact ⟨hname ▸ harray, d, hd, hname⟩
  · rintro ⟨harray, d, hd, hname⟩
    exact ⟨d, ⟨hd, hname ▸ harray⟩, hname⟩

/-- What a helper file gets into the table: the assertions that its lines define, each under the
part of its name behind the common one, but none whose name seems to be one for arrays.  Where a
block comment is cut, the lines up to the end of the next one that is not are as if they were not
there. -/
theorem lookup_ofHelperText_iff {parts : List Part} (hlined : Lined parts)
    (type assertion : String) :
    (Legible parts →
      ((Comparisons.ofHelperText (text parts)).lookup type = some assertion ↔
        assertion = "UNITY_TEST_ASSERT_EQUAL_" ++ type ∧ ¬"ARRAY".toList <+: type.toList ∧
          ∃ d ∈ definitions parts, d.name = type.toList)) ∧
    (Bounded false parts →
      ((Comparisons.ofHelperText (text parts)).lookup type = some assertion ↔
        assertion = "UNITY_TEST_ASSERT_EQUAL_" ++ type ∧ ¬"ARRAY".toList <+: type.toList ∧
          ∃ d ∈ definitions (visible false parts), d.name = type.toList)) := by
  refine ⟨fun hlegible => ?_, fun hbounded => lookup_of_bounded hlined hbounded type assertion⟩
  obtain ⟨hbounded, hvisible⟩ := hlegible.visible_eq
  have hlookup := lookup_of_bounded hlined hbounded type assertion
  rwa [hvisible] at hlookup

/-- Points are compared by a function. -/
def pointDefinition : Definition where
  name := "POINT".toList
  first := ['a']
  others := [['b'], ['c'], ['d']]
  replacement := " check(a,b,c,d)".toList
  name_word := by decide
  name_value := by
    rw [← hasPart_iff]
    decide
  first_word := by decide
  others_word := by decide
  four_parameters := rfl
  oneLine := by decide
  noLineComment := by
    rw [← hasPart_iff]
    decide
  noBlockComment := by
    rw [← hasPart_iff]
    decide

/-- The definition of points between two block comments, the first one with `body`. -/
def pointHelper (body : String) (closed : hasPart ['*', '/'] body.toList = false) :
    List Part :=
  have apart : ∀ {t}, hasPart ['*', '/'] t = false → ¬['*', '/'] <:+: t :=
    fun h hpart => false_ne_true (h.symm.trans (hasPart_iff.mpr hpart))
  [.block body.toList (apart closed), .gap ['\n'] (by decide) (by decide),
    .definition pointDefinition, .gap ['\n'] (by decide) (by decide),
    .block " end ".toList (apart (by decide)), .gap ['\n'] (by decide) (by decide)]

theorem lined_pointHelper {body : String} (closed : hasPart ['*', '/'] body.toList = false) :
    Lined (pointHelper body closed) := by
  refine ⟨nofun, nofun, fun _ => ?_, nofun, nofun, nofun, trivial⟩
  rintro c ⟨⟩
  rfl

theorem lookup_ofHelperText_point :
    let parts := pointHelper "\n  http://a.b\n" rfl
    Lined parts ∧ Legible parts ∧
      (Comparisons.ofHelperText (text parts)).lookup "POINT" =
        some "UNITY_TEST_ASSERT_EQUAL_POINT" := by
  intro parts
  have hlined : Lined parts := lined_pointHelper _
  have hlegible : Legible parts := by
    refine ⟨?_, by decide, ?_, by decide, trivial⟩
    · rw [← hasPart_iff]
      decide
    · rw [← hasPart_iff]
      decide
  refine ⟨hlined, hlegible, ((lookup_ofHelperText_iff hlined "POINT" _).1 hlegible).mpr ?_⟩
  exact ⟨rfl, by decide, pointDefinition, mem_cons_self, rfl⟩

/-- A line comment that seems to start in the last line of a block comment takes its end away, and
with it the definitions up to the end of the next one. -/
theorem ofHelperText_hidden_point :
    let parts := pointHelper " http://a.b " rfl
    Lined parts ∧ pointDefinition ∈ definitions parts ∧
      Comparisons.ofHelperText (text parts) = [] :=
  ⟨lined_pointHelper _, mem_cons_self, by decide +kernel⟩

end MockGen.Helper
