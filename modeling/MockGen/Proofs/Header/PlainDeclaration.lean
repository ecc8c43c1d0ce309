import MockGen.Proofs.Header.Run
import MockGen.Proofs.Header.ParameterList
import MockGen.Proofs.Header.Signature

/-!
# Reading a plain declaration

Whatever its white space, a line with the lexemes of a plain prototype is read as that prototype.
-/

namespace MockGen.Header

open Text Pattern PlainPrototype
open List hiding lex

/-! ## The line -/

theorem PlainPrototype.mem_declarationLexemes (p : PlainPrototype) {l : Lexeme}
    (hl : l ∈ p.declarationLexemes) : IsInner l ∨ l = .sign '(' ∨ l = .sign ')' := by
  simp only [declarationLexemes, mem_append, mem_cons, not_mem_nil, or_false] at hl
  rcases hl with (hl | rfl | hl) | rfl
  · exact Or.inl (p.head.isInner hl)
  · exact Or.inr (Or.inl rfl)
  · exact Or.inl (p.mem_parameterLexemes hl).1
  · exact Or.inr (Or.inr rfl)

theorem exists_trimmed_eq (p : PlainPrototype) {line : List Char}
    (hlex : lex line = p.declarationLexemes) :
    ∃ h q, trimmed line = h ++ '(' :: (q ++ [')']) ∧ lex h = p.head.lexemes ∧
      lex q = p.parameterLexemes := by
  have hsplit : lex line =
      p.head.lexemes ++ .sign '(' :: (p.parameterLexemes ++ .sign ')' :: []) := by
    rw [hlex, declarationLexemes]
    simp
  obtain ⟨x, y, rfl, hx, hy⟩ := lex_eq_append_sign hsplit
  obtain ⟨q, z, rfl, hq, hz⟩ := lex_eq_append_sign hy
  have hstrip := strip_brackets (x := x) (q := q) (lex_eq_nil_iff.mp hz)
  have hbackslash : '\\' ∉ Text.strip (x ++ '(' :: (q ++ ')' :: z)) := by
    intro hmem
    have hsign := sign_mem_lex hmem rfl rfl
    rw [lex_strip, hlex] at hsign
    rcases p.mem_declarationLexemes hsign with (h | h | h) | h | h
    · simp [Lexeme.isWord] at h
    all_goals simp at h
  refine ⟨stripStart x, q, ?_, ?_, hq⟩
  · rw [trimmed, Text.replace, ← hstrip]
    exact replaceFrom_eq_self hbackslash
  · rw [← hx]
    conv => rhs; rw [← takeWhile_append_dropWhile (p := isBlank) (l := x)]
    exact (lex_append_blanks (fun c hc => mem_takeWhile_imp hc) _).symm

theorem notMem_brackets {t : List Char}
    (ht : ∀ c ∈ t, isWord c = true ∨ isBlank c = true ∨ c = '*' ∨ c = ',') : '(' ∉ t ∧ ')' ∉ t := by
  constructor <;> intro hmem <;> have := ht _ hmem <;> simp [isWord, isBlank] at this

section

variable (p : PlainPrototype) {h q : List Char} (hh : lex h = p.head.lexemes)
  (hq : lex q = p.parameterLexemes)

include hh hq

theorem declares_of_lex : Declares (h ++ '(' :: (q ++ [')'])) h q [] := by
  have hletter : ∃ c ∈ h, isWord c = true := by
    obtain ⟨w, more, hfirst⟩ := p.head.exists_lexemes_eq
    obtain ⟨u, y, rfl, -, hw, hne, -⟩ := lex_eq_word_cons (hh.trans hfirst)
    obtain ⟨c, hc⟩ := exists_mem_of_ne_nil w hne
    exact ⟨c, by simp [hc], hw c hc⟩
  refine ⟨rfl, ⟨fun c hc => ?_, hletter⟩, fun c hc => ?_, by simp⟩
  · rcases mem_of_lex_inner (fun l hl => p.head.isInner (hh ▸ hl)) hc with h | h | rfl | rfl
    · exact headChars_word h
    · simp [headChars, CharSet.mem, Union.union, h]
    · decide
    · decide
  · rcases mem_of_lex_inner (fun l hl => (p.mem_parameterLexemes (hq ▸ hl)).1) hc
      with h | h | rfl | rfl
    · simp [paramChars, CharSet.mem, Union.union, h]
    · simp [paramChars, CharSet.mem, Union.union, h]
    · decide
    · decide

theorem matchStart?_of_lex : ∃ m, declaration.matchStart? (h ++ '(' :: (q ++ [')'])) = some m ∧
    m.group 1 = h ∧ m.group 2 = q := by
  obtain ⟨m, hm⟩ := Option.isSome_iff_exists.mp
    (matchHere?_declaration_isSome (c := Cursor.start _).mpr ⟨h, q, [], declares_of_lex p hh hq⟩)
  refine ⟨m, hm, ?_⟩
  obtain ⟨rest, htext, -⟩ := matchStart?_declaration hm
  have hhead := notMem_brackets fun c hc =>
    mem_of_lex_inner (fun l hl => p.head.isInner (hh ▸ hl)) hc
  have hparams := notMem_brackets fun c hc =>
    mem_of_lex_inner (fun l hl => (p.mem_parameterLexemes (hq ▸ hl)).1) hc
  -- Each bracket occurs once, so the match takes the text apart in the same way.
  have hopen : '(' ∉ q ++ [')'] := by simp [hparams.1]
  obtain ⟨hgroup₁, -, hrest⟩ := (append_cons_inj_of_notMem hhead.1 hopen).mp htext
  obtain ⟨hgroup₂, -, -⟩ := (append_cons_inj_of_notMem hparams.2 (by simp)).mp hrest
  exact ⟨hgroup₁.symm, hgroup₂.symm⟩

end

/-! ## The record -/

theorem lex_intercalate_space (pieces : List (List Char)) :
    lex ([' '].intercalate pieces) = pieces.flatMap lex := by
  induction pieces with
  | nil => rfl
  | cons piece rest ih =>
    cases rest with
    | nil => simp
    | cons next rest =>
      rw [intercalate_cons_cons, append_assoc, singleton_append,
        lex_append_blank rfl, ih]
      rfl

theorem PlainDeclarator.lex_type (d : PlainDeclarator) :
    lex d.type.toList = d.words.map PlainWord.lexeme ++ List.replicate d.stars (.sign '*') := by
  have hwords : lex (" ".intercalate (d.words.map PlainWord.text)).toList =
      d.words.map PlainWord.lexeme := by
    have hlex : ∀ w : PlainWord, lex w.text.toList = [w.lexeme] := fun w =>
      lex_letters (fun c hc => (w.isAscii hc).2) w.text_ne_nil
    rw [String.toList_intercalate]
    refine (lex_intercalate_space _).trans ?_
    rw [flatMap_map, flatMap_map]
    simp only [hlex]
    exact map_eq_flatMap.symm
  have hstars : lex (List.replicate d.stars '*') = List.replicate d.stars (.sign '*') := by
    rw [lex_stars fun c hc => eq_of_mem_replicate hc, length_replicate]
  have hbreak : ∀ c ∈ (List.replicate d.stars '*').head?, isWord c = false := fun c hc => by
    rw [eq_of_mem_replicate (mem_of_mem_head? hc)]
    rfl
  rw [type, String.toList_append, String.toList_ofList, lex, lexFrom_append hbreak, hstars]
  exact congrArg (· ++ List.replicate d.stars (.sign '*')) hwords

theorem PlainDeclarator.type_eq_of_strip (d : PlainDeclarator)
    (h : Text.strip d.type.toList = "void".toList) : d.type = "void" := by
  have hlex : d.words.map PlainWord.lexeme ++ List.replicate d.stars (.sign '*') =
      [.word "void".toList] := by
    rw [← d.lex_type, ← lex_strip, h]
    decide
  cases hwords : d.words with
  | nil => exact absurd hwords d.hasWords
  | cons w ws =>
    rw [hwords] at hlex
    obtain ⟨hword, hrest⟩ := List.cons.inj hlex
    obtain ⟨hws, hstars⟩ : ws = [] ∧ d.stars = 0 := by simpa using hrest
    have htext : w.text = "void" := String.toList_inj.mp (Lexeme.word.inj hword)
    rw [type, hwords, hws, hstars]
    simp [htext]

theorem returnedOf_type {voids : List String} (hvoids : ∀ v ∈ voids, v = "void")
    (d : PlainDeclarator) {parsed : TypedName} (hparsed : parsed.type = d.type) :
    (returnedOf voids parsed).type = d.type := by
  rw [returnedOf, hparsed]
  dsimp only
  split
  · rename_i hvoid
    have hstrip := hvoids _ (contains_iff_mem.mp hvoid)
    exact (d.type_eq_of_strip (String.ofList_injective (by rw [hstrip]; rfl))).symm
  · rfl

/-- What a prototype says: its name, what it returns, and its parameters. -/
def viewOf (f : Prototype) : String × String × List (String × String) :=
  (f.name, f.returned.type, f.args.map Argument.view)

def PlainPrototype.view (p : PlainPrototype) : String × String × List (String × String) :=
  (p.head.name.text, p.head.type, p.params.map PlainDeclarator.view)

theorem ellipsis_absent {q : List Char} (h : '.' ∉ q) : ellipsis.Absent q :=
  absent_of_needs (q := (· == '.')) rfl fun c hc => by
    rw [beq_eq_false_iff_ne]
    rintro rfl
    exact h hc

/-- A plain declaration is read as the prototype that it spells, and reading it leaves the state as
it is. -/
theorem prototype_of_lex {r : Rules} (hr : r.ReservesWords) (harray : r.arrayTypes = some [])
    {size : Pattern} (hsize : readPattern r.arraySizeName = .ok size) {s : Reading}
    (hvoid : "void" ∈ s.voids) (hvoids : ∀ v ∈ s.voids, v = "void") (p : PlainPrototype)
    (hstandards : ∀ d ∈ p.params, d.name.text ∉ r.standards) {line : List Char}
    (hlex : lex line = p.declarationLexemes) :
    ∃ f, (prototype r (trimmed line) [] none).run s = (.ok f, s) ∧ viewOf f = p.view := by
  obtain ⟨h, q, htrimmed, hh, hq⟩ := exists_trimmed_eq p hlex
  obtain ⟨m, hm, hgroup₁, hgroup₂⟩ := matchStart?_of_lex p hh hq
  have hsplit : splitVarArg (Text.strip q) = (none, Text.strip q) := by
    have hdot : '.' ∉ Text.strip q := by
      intro hmem
      have hinner : ∀ l ∈ lex (Text.strip q), IsInner l := fun l hl =>
        (p.mem_parameterLexemes (by rwa [lex_strip, hq] at hl)).1
      rcases mem_of_lex_inner hinner hmem with h | h | h | h <;> simp [isWord, isBlank] at h
    rw [splitVarArg, (ellipsis_absent hdot).find?_eq_none]
  obtain ⟨list, args, hclean, hargs, hviews⟩ : ∃ list args,
      cleanArguments r (Text.strip q) s = (list, s) ∧ arguments r list = .ok args ∧
        args.map Argument.view = p.params.map PlainDeclarator.view := by
    by_cases hparams : p.params = []
    · have hlist : Text.strip q = "void".toList := by
        refine strip_eq_of_lex ?_
        rw [hq, parameterLexemes, hparams]
        rfl
      refine ⟨"void".toList, [], ?_, rfl, by rw [hparams]; rfl⟩
      have hknown : s.voids.contains (String.ofList (Text.strip "void".toList)) = true :=
        contains_iff_mem.mpr hvoid
      rw [hlist, cleanArguments, hknown]
      rfl
    · have hq : lex (Text.strip q) = listLexemes p.params := by
        rw [lex_strip, hq]
        simp [parameterLexemes, hparams]
      obtain ⟨cleaned, hclean, hcleaned⟩ := cleanArguments_of_lex hparams hq hvoids hstandards
      obtain ⟨args, hargs, hviews⟩ := arguments_of_lex hr harray hsize hparams hcleaned
      exact ⟨cleaned, args, hclean, hargs, hviews⟩
  obtain ⟨parsed, hparsed, hname, htype⟩ : ∃ parsed, typeAndName r h = .ok parsed ∧
      parsed.name = p.head.name.text ∧ parsed.type = p.head.type :=
    ⟨_, typeAndName_of_lex hr p.head hh, rfl, rfl⟩
  have hreturned : (returnedOf s.voids parsed).type = p.head.type :=
    returnedOf_type hvoids p.head htype
  have hnonempty : ((returnedOf s.voids parsed).type == "") = false := by
    rw [hreturned, beq_eq_false_iff_ne]
    intro hempty
    have hlex := p.head.lex_type
    rw [hempty] at hlex
    exact p.head.hasWords (by simpa using (append_eq_nil_iff.mp hlex.symm).1)
  refine ⟨prototypeOf ([], none) parsed (returnedOf s.voids parsed) none list args, ?_, ?_⟩
  · rw [htrimmed, prototype_run, hm]
    simp only [hgroup₁, hgroup₂, hparsed, hsplit, hclean, hargs, hnonempty, Bool.false_eq_true,
      if_false]
  · rw [viewOf, view, ← hname, ← hreturned, ← hviews]
    rfl

end MockGen.Header
