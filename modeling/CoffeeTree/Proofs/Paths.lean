import CoffeeTree.Json.Path

/-!
# Places and their texts

What a path leads to, and what its text tells. A path is reached in a value when all of it but the
last step can be followed; the last step may still name a key that an object does not have
(`Reached`). The text of a path whose keys are words determines the path (`Path.eq_of_text_append`),
also when something else follows the text, as it does in a message.
-/

namespace CoffeeTree.Json

/-! ### Reaching a place -/

/-- A step that a value has room for: a key of an object, whether it is there or not, or an index
that an array has. -/
def Step.Suits : Step → Json → Prop
  | key _, x => ∃ entries, x = .obj entries
  | index i, x => ∃ values, x = .arr values ∧ i < values.length

/-- The path can be followed up to its last step, and what is there has room for that step. -/
def Reached (x : Json) (path : Path) : Prop :=
  ∃ y, x.follow? path.dropLast = some y ∧ ∀ step, path.getLast? = some step → step.Suits y

/-- A step that can be taken suits the value. -/
theorem Step.suits_of_step? {x y : Json} {step : Step} (h : x.step? step = some y) :
    step.Suits x := by
  cases step with
  | key name =>
    cases x with
    | obj entries => exact ⟨entries, rfl⟩
    | _ => cases h
  | index i =>
    cases x with
    | arr values => exact ⟨values, rfl, (List.getElem?_eq_some_iff.1 h).1⟩
    | _ => cases h

theorem reached_nil (x : Json) : Reached x [] := ⟨x, rfl, nofun⟩

theorem reached_singleton {x : Json} {step : Step} (h : step.Suits x) : Reached x [step] := by
  refine ⟨x, rfl, fun last hlast ↦ ?_⟩
  obtain rfl : step = last := Option.some.inj hlast
  exact h

/-- A place inside a part of a value is a place of the value. -/
theorem Reached.under {x y : Json} {step : Step} {path : Path} (hstep : x.step? step = some y)
    (h : Reached y path) : Reached x (step :: path) := by
  cases path with
  | nil => exact reached_singleton (Step.suits_of_step? hstep)
  | cons next rest =>
    obtain ⟨z, hz, hlast⟩ := h
    refine ⟨z, ?_, fun last h ↦ hlast last (by rwa [List.getLast?_cons_cons] at h)⟩
    rw [List.dropLast_cons_cons, follow?, hstep]
    exact hz

/-! ### The text of a path -/

/-- A character of a word: no mark that stands in the text of a path or around it. -/
def isWordChar (c : Char) : Bool := c ≠ '.' && c ≠ '[' && c ≠ '`'

/-- All keys of the path are words. -/
def Path.Worded (path : Path) : Prop :=
  ∀ name, Step.key name ∈ path → name.toList.all isWordChar

/-- The characters of the steps. -/
def Path.chars (path : Path) : List Char := path.flatMap fun step ↦ step.text.toList

theorem Path.chars_cons (step : Step) (rest : Path) :
    Path.chars (step :: rest) = step.text.toList ++ Path.chars rest :=
  List.flatMap_cons

/-- A path is worded step by step. -/
theorem Path.worded_cons_iff {step : Step} {rest : Path} :
    Path.Worded (step :: rest) ↔ Path.Worded [step] ∧ rest.Worded := by
  simp only [Worded, List.mem_cons, List.not_mem_nil, or_false]
  exact ⟨fun h ↦ ⟨fun name hname ↦ h name (.inl hname), fun name hname ↦ h name (.inr hname)⟩,
    fun h name hname ↦ hname.elim (h.1 name) (h.2 name)⟩

/-- The text of a path starts at the root. -/
theorem Path.toList_text (path : Path) : path.text.toList = '$' :: path.chars := by
  rw [text, String.toList_append, String.toList_join, List.flatMap_map]
  rfl

theorem Step.toList_text_key (name : String) : (key name).text.toList = '.' :: name.toList := by
  rw [text, String.toList_append]
  rfl

theorem Step.toList_text_index (i : Nat) :
    (index i).text.toList = '[' :: (Nat.toDigits 10 i ++ [']']) := by
  rw [← Nat.toList_repr]
  simp [text, toString]

/-- Two texts start with the same run of characters of a class if both end their run. -/
theorem run_eq {p : Char → Bool} {run run' rest rest' : List Char} (hrun : run.all p)
    (hrun' : run'.all p) (hrest : ∀ c ∈ rest.head?, p c = false)
    (hrest' : ∀ c ∈ rest'.head?, p c = false) (h : run ++ rest = run' ++ rest') :
    run = run' ∧ rest = rest' := by
  -- Both runs go as far as `p` holds, so neither can end before the other.
  induction run generalizing run' with
  | nil =>
    cases run' with
    | nil => exact ⟨rfl, h⟩
    | cons c others =>
      obtain rfl : rest = c :: others ++ rest' := h
      have hc : p c = true := (List.all_eq_true.1 hrun') c List.mem_cons_self
      rw [hrest c rfl] at hc
      cases hc
  | cons c others ih =>
    have hc : p c = true := (List.all_eq_true.1 hrun) c List.mem_cons_self
    cases run' with
    | nil =>
      obtain rfl : c :: others ++ rest = rest' := h
      rw [hrest' c rfl] at hc
      cases hc
    | cons c' others' =>
      rw [List.all_cons, Bool.and_eq_true] at hrun hrun'
      obtain ⟨rfl, hothers⟩ := List.cons.inj h
      obtain ⟨rfl, hrest⟩ := ih hrun.2 hrun'.2 hothers
      exact ⟨rfl, hrest⟩

/-- The text of a step starts with a mark, which tells its kind. -/
theorem Step.exists_text_eq (step : Step) :
    ∃ mark rest, step.text.toList = mark :: rest ∧ isWordChar mark = false ∧ mark ≠ '`' := by
  cases step with
  | key name => exact ⟨'.', _, toList_text_key name, rfl, by decide⟩
  | index i => exact ⟨'[', _, toList_text_index i, rfl, by decide⟩

/-- A step is determined by its text if no word goes on after it. -/
theorem Step.eq_of_text_append {step step' : Step} {rest rest' : List Char}
    (hstep : Path.Worded [step]) (hstep' : Path.Worded [step'])
    (hrest : ∀ c ∈ rest.head?, isWordChar c = false)
    (hrest' : ∀ c ∈ rest'.head?, isWordChar c = false)
    (h : step.text.toList ++ rest = step'.text.toList ++ rest') : step = step' ∧ rest = rest' := by
  cases step with
  | key name =>
    cases step' with
    | key name' =>
      rw [toList_text_key, toList_text_key] at h
      obtain ⟨hname, hrest⟩ := run_eq (hstep name List.mem_cons_self)
        (hstep' name' List.mem_cons_self) hrest hrest' (List.cons.inj h).2
      exact ⟨congrArg key (String.toList_injective hname), hrest⟩
    | index i =>
      rw [toList_text_key, toList_text_index] at h
      exact absurd (List.cons.inj h).1 (by decide)
  | index i =>
    cases step' with
    | key name =>
      rw [toList_text_key, toList_text_index] at h
      exact absurd (List.cons.inj h).1 (by decide)
    | index i' =>
      rw [toList_text_index, toList_text_index, List.cons_append, List.cons_append,
        List.append_assoc, List.append_assoc] at h
      have hdigits : ∀ n, (Nat.toDigits 10 n).all Char.isDigit := fun n ↦
        List.all_eq_true.2 fun c ↦ Nat.isDigit_of_mem_toDigits (by decide) (by decide)
      -- The digits of an index end at the bracket, however the text goes on.
      have hbracket : ∀ after : List Char, ∀ c ∈ ([']'] ++ after).head?, c.isDigit = false := by
        intro after c hc
        obtain rfl : ']' = c := Option.some.inj hc
        rfl
      obtain ⟨hnumber, hrest⟩ := run_eq (hdigits i) (hdigits i') (hbracket rest) (hbracket rest')
        (List.cons.inj h).2
      have hi : i = i' := by
        rw [← @Nat.ofDigitChars_ten_toDigits i, hnumber, Nat.ofDigitChars_ten_toDigits]
      exact ⟨congrArg index hi, (List.cons.inj hrest).2⟩

/-- No word goes on after a path that is set in marks. -/
theorem Path.isWordChar_head?_chars (path : Path) (after : List Char) :
    ∀ c ∈ (path.chars ++ '`' :: after).head?, isWordChar c = false := by
  intro c hc
  cases path with
  | nil =>
    obtain rfl : '`' = c := Option.some.inj hc
    rfl
  | cons step rest =>
    obtain ⟨mark, others, htext, hmark, -⟩ := step.exists_text_eq
    rw [chars_cons, htext] at hc
    obtain rfl : mark = c := Option.some.inj hc
    exact hmark

/-- A step is not the mark that ends a path. -/
theorem Path.chars_cons_ne {step : Step} {rest : Path} {after after' : List Char} :
    Path.chars (step :: rest) ++ after ≠ '`' :: after' := by
  obtain ⟨mark, others, htext, -, hmark⟩ := step.exists_text_eq
  rw [chars_cons, htext]
  intro h
  exact hmark (List.cons.inj h).1

/-- Where a path ends in a text is told by the backtick. -/
theorem Path.eq_of_chars_append {path path' : Path} {after after' : List Char}
    (hpath : path.Worded) (hpath' : path'.Worded)
    (h : path.chars ++ '`' :: after = path'.chars ++ '`' :: after') : path = path' := by
  induction path generalizing path' with
  | nil =>
    cases path' with
    | nil => rfl
    | cons step rest => exact absurd h.symm chars_cons_ne
  | cons step rest ih =>
    cases path' with
    | nil => exact absurd h chars_cons_ne
    | cons step' rest' =>
      obtain ⟨hfirst, hrest⟩ := worded_cons_iff.1 hpath
      obtain ⟨hfirst', hrest'⟩ := worded_cons_iff.1 hpath'
      rw [chars_cons, chars_cons, List.append_assoc, List.append_assoc] at h
      obtain ⟨rfl, htail⟩ := Step.eq_of_text_append hfirst hfirst'
        (isWordChar_head?_chars rest after) (isWordChar_head?_chars rest' after') h
      rw [ih hrest hrest' htail]

/-- **A path can be read off a text that sets it in marks**, whatever comes after it. -/
theorem Path.eq_of_text_append {path path' : Path} {after after' : String}
    (hpath : path.Worded) (hpath' : path'.Worded)
    (h : "`" ++ path.text ++ "`" ++ after = "`" ++ path'.text ++ "`" ++ after') :
    path = path' := by
  have hchars := congrArg String.toList h
  simp only [String.toList_append, toList_text] at hchars
  have hbare : path.chars ++ '`' :: after.toList = path'.chars ++ '`' :: after'.toList := by
    simpa using hchars
  exact eq_of_chars_append hpath hpath' hbare

end CoffeeTree.Json
