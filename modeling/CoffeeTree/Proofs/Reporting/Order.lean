import CoffeeTree.Proofs.Reporting.Quoting

/-!
# The order of a report

A report prints its diagnostics by file, line and column. The sort keeps diagnostics of one place in
their order, so it is settled by the diagnostics of each place (`Diagnostic.sorted_congr`): a sorted
list is made of them, place after place (`Diagnostic.eq_of_pairwise`), and sorting moves none of
them past another one of the same place (`Diagnostic.filter_sorted`).

Together with `Report.runOn_texts` this says what is printed: the text of each diagnostic, with the
source that it would quote alone, in the order of their places, and then the summary.
-/

namespace CoffeeTree

namespace Diagnostic

variable {d e f : Diagnostic} {ds es : List Diagnostic}

/-- The file, the line and the column that a diagnostic is about. -/
def key (d : Diagnostic) : String × Int × Int := (d.span.file, d.span.line, d.span.column)

/-- The place of a diagnostic comes before that of another one, or is the same: by file, by line in
one file, and by column on one line. -/
def Precedes (d e : Diagnostic) : Prop :=
  d.span.file < e.span.file ∨ d.span.file = e.span.file ∧
    (d.span.line < e.span.line ∨ d.span.line = e.span.line ∧ d.span.column ≤ e.span.column)

/-- The comparison decides the order. -/
theorem notAfter_iff : notAfter d e = true ↔ d.Precedes e := by
  rw [notAfter, Precedes]
  by_cases hfile : d.span.file = e.span.file
  · have hnot : ¬ d.span.file < e.span.file := hfile ▸ String.lt_irrefl _
    rw [if_pos hfile, or_iff_right hnot, and_iff_right hfile]
    by_cases hline : d.span.line = e.span.line
    · rw [if_pos hline, decide_eq_true_iff]
      omega
    · rw [if_neg hline, decide_eq_true_iff]
      omega
  · rw [if_neg hfile, decide_eq_true_iff, or_iff_left fun h ↦ hfile h.1]

/-- The order is transitive. -/
theorem Precedes.trans (h : d.Precedes e) (h' : e.Precedes f) : d.Precedes f := by
  rcases h with hfile | ⟨hfile, hplace⟩
  · rcases h' with hfile' | ⟨hfile', -⟩
    · exact .inl (String.lt_trans hfile hfile')
    · exact .inl (hfile' ▸ hfile)
  · rcases h' with hfile' | ⟨hfile', hplace'⟩
    · exact .inl (hfile ▸ hfile')
    · exact .inr ⟨hfile.trans hfile', by omega⟩

/-- Of two diagnostics one comes first. Both do if they are at the same place. -/
theorem precedes_total (d e : Diagnostic) : d.Precedes e ∨ e.Precedes d := by
  by_cases hfile : d.span.file = e.span.file
  · by_cases hplace : d.span.line < e.span.line ∨
        d.span.line = e.span.line ∧ d.span.column ≤ e.span.column
    · exact .inl (.inr ⟨hfile, hplace⟩)
    · exact .inr (.inr ⟨hfile.symm, by omega⟩)
  · by_cases hlt : d.span.file < e.span.file
    · exact .inl (.inl hlt)
    · refine .inr (.inl (Decidable.byContradiction fun hnot ↦ ?_))
      exact hfile (String.le_antisymm (String.not_lt.1 hnot) (String.not_lt.1 hlt))

/-- Two diagnostics that precede each other are about the same place. -/
theorem Precedes.key_eq (h : d.Precedes e) (h' : e.Precedes d) : d.key = e.key := by
  rcases h with hfile | ⟨hfile, hplace⟩
  · rcases h' with hfile' | ⟨hfile', -⟩
    · exact absurd hfile' (String.lt_asymm hfile)
    · exact absurd (hfile' ▸ hfile) (String.lt_irrefl _)
  · rcases h' with hfile' | ⟨-, hplace'⟩
    · exact absurd (hfile ▸ hfile') (String.lt_irrefl _)
    · have hline : d.span.line = e.span.line := by omega
      have hcolumn : d.span.column = e.span.column := by omega
      rw [key, key, hfile, hline, hcolumn]

theorem precedes_of_key_eq (h : d.key = e.key) : d.Precedes e := by
  obtain ⟨hfile, hplace⟩ := Prod.mk.inj h
  obtain ⟨hline, hcolumn⟩ := Prod.mk.inj hplace
  exact .inr ⟨hfile, .inr ⟨hline, Int.le_of_eq hcolumn⟩⟩

/-! ### Sorting -/

/-- Sorting loses nothing. -/
theorem sorted_perm (ds : List Diagnostic) : (sorted ds).Perm ds := List.mergeSort_perm ds notAfter

theorem notAfter_trans (d e f : Diagnostic) (h : notAfter d e = true) (h' : notAfter e f = true) :
    notAfter d f = true :=
  notAfter_iff.2 ((notAfter_iff.1 h).trans (notAfter_iff.1 h'))

theorem notAfter_total (d e : Diagnostic) : (notAfter d e || notAfter e d) = true := by
  rw [Bool.or_eq_true, notAfter_iff, notAfter_iff]
  exact precedes_total d e

/-- What is sorted is in order. -/
theorem pairwise_sorted (ds : List Diagnostic) : (sorted ds).Pairwise Precedes :=
  (List.pairwise_mergeSort notAfter_trans notAfter_total ds).imp notAfter_iff.1

/-- **Sorting keeps the diagnostics of one place in their order.** -/
theorem filter_sorted (ds : List Diagnostic) (k : String × Int × Int) :
    (sorted ds).filter (·.key = k) = ds.filter (·.key = k) := by
  have hkey {d : Diagnostic} (hd : d ∈ ds.filter (·.key = k)) : d.key = k :=
    of_decide_eq_true (List.mem_filter.1 hd).2
  have hpairwise : (ds.filter (·.key = k)).Pairwise fun d e ↦ notAfter d e = true :=
    List.pairwise_iff_getElem.2 fun i j hi hj _ ↦ notAfter_iff.2
      (precedes_of_key_eq ((hkey (List.getElem_mem hi)).trans (hkey (List.getElem_mem hj)).symm))
  -- They are a sorted part of the list, which a stable sort leaves together.
  have hsublist : (ds.filter (·.key = k)).Sublist (sorted ds) :=
    List.sublist_mergeSort notAfter_trans notAfter_total hpairwise List.filter_sublist
  have hfilter := hsublist.filter (·.key = k)
  rw [List.filter_filter, List.filter_congr fun d _ ↦ Bool.and_self _] at hfilter
  exact (hfilter.eq_of_length ((sorted_perm ds).filter _).length_eq.symm).symm

/-- The first of an ordered list precedes all of it. -/
theorem Precedes.of_mem_cons (hds : (d :: ds).Pairwise Precedes) (he : e ∈ d :: ds) :
    d.Precedes e := by
  rcases List.mem_cons.1 he with rfl | he
  · exact precedes_of_key_eq rfl
  · exact (List.pairwise_cons.1 hds).1 e he

/-- A diagnostic is found again in a list with the same diagnostics at each place. -/
theorem mem_of_filter_eq (h : ∀ k, ds.filter (·.key = k) = es.filter (·.key = k)) (hd : d ∈ ds) :
    d ∈ es := by
  have hmem : d ∈ ds.filter (·.key = d.key) := List.mem_filter.2 ⟨hd, decide_eq_true rfl⟩
  rw [h] at hmem
  exact (List.mem_filter.1 hmem).1

/-- **A sorted list is settled by the diagnostics of each place.** -/
theorem eq_of_pairwise (hds : ds.Pairwise Precedes) (hes : es.Pairwise Precedes)
    (h : ∀ k, ds.filter (·.key = k) = es.filter (·.key = k)) : ds = es := by
  induction ds generalizing es with
  | nil =>
    rcases es with _ | ⟨e, es⟩
    · rfl
    · exact absurd (mem_of_filter_eq (fun k ↦ (h k).symm) List.mem_cons_self) List.not_mem_nil
  | cons d ds ih =>
    rcases es with _ | ⟨e, es⟩
    · exact absurd (mem_of_filter_eq h List.mem_cons_self) List.not_mem_nil
    · -- Each of the two heads comes first, so they are of one place, and the first ones there.
      have hde : d.Precedes e :=
        .of_mem_cons hds (mem_of_filter_eq (fun k ↦ (h k).symm) List.mem_cons_self)
      have hed : e.Precedes d := .of_mem_cons hes (mem_of_filter_eq h List.mem_cons_self)
      have hheads := h d.key
      rw [List.filter_cons, List.filter_cons, if_pos (decide_eq_true rfl),
        if_pos (decide_eq_true (hed.key_eq hde))] at hheads
      obtain rfl : d = e := (List.cons.inj hheads).1
      have htails : ∀ k, ds.filter (·.key = k) = es.filter (·.key = k) := by
        intro k
        have hk := h k
        rw [List.filter_cons, List.filter_cons] at hk
        split at hk
        · exact (List.cons.inj hk).2
        · exact hk
      rw [ih hds.of_cons hes.of_cons htails]

/-- **Sorting depends only on the order at each place.** -/
theorem sorted_congr (h : ∀ k, ds.filter (·.key = k) = es.filter (·.key = k)) :
    sorted ds = sorted es := by
  refine eq_of_pairwise (pairwise_sorted ds) (pairwise_sorted es) fun k ↦ ?_
  rw [filter_sorted, filter_sorted, h]

/-- Diagnostics about different places may change theirs in the list. -/
theorem filter_swap (h : d.key ≠ e.key) (rest : List Diagnostic) (k : String × Int × Int) :
    (d :: e :: rest).filter (·.key = k) = (e :: d :: rest).filter (·.key = k) := by
  rw [List.filter_cons, List.filter_cons, List.filter_cons, List.filter_cons]
  by_cases hd : d.key = k
  · have he : ¬ decide (e.key = k) = true := fun he ↦ h (hd.trans (of_decide_eq_true he).symm)
    rw [if_neg he, if_neg he]
  · have hd : ¬ decide (d.key = k) = true := fun hk ↦ hd (of_decide_eq_true hk)
    rw [if_neg hd, if_neg hd]

/-- The summary counts, so the order does not matter to it. -/
theorem summary_perm (h : ds.Perm es) : summary ds = summary es := by
  rw [summary, summary, h.countP_eq, h.countP_eq]

end Diagnostic

namespace Report

variable {disk : Disk} {source : Option Source} {r after : Repository} {ds es : List Diagnostic}

/-- A report prints the texts of its diagnostics and the summary. -/
theorem runOn_printed {parts : List String}
    (h : runOn (texts source (Diagnostic.sorted ds)) r disk = ((.ok parts, after), disk))
    (print : String → String) :
    runOn (printed print source ds) r disk =
      ((.ok (if ds.isEmpty then "" else
        String.join (parts.map fun part ↦ print part ++ print "") ++
          print (Diagnostic.summary ds)), after), disk) := by
  rw [printed, runOn_bind h]
  by_cases hempty : ds.isEmpty = true
  · rw [if_pos hempty, if_pos hempty]
    rfl
  · rw [if_neg hempty, if_neg hempty]
    rfl

/-- **A report does not depend on the order in which its diagnostics were collected.** Two lists of
the same diagnostics, in which those about one place stand in the same order, are printed alike by
reports that start with nothing known, if every file that they have to look for is missing or holds
text. What is printed are the texts of the diagnostics, each once, in the order of their places, and
the summary after them. -/
theorem printed_of_reordered (print : String → String) (source : Option Source) (disk : Disk)
    (hperm : ds.Perm es) (horder : ∀ k, ds.filter (·.key = k) = es.filter (·.key = k))
    (hread : ∀ d ∈ ds, Consults source d.span.file → disk.Readable d.span.file) :
    ∃ (order : List Diagnostic) (text : String) (after : Repository),
      order.Perm ds ∧ order.Pairwise Diagnostic.Precedes ∧
      (∀ k, order.filter (·.key = k) = ds.filter (·.key = k)) ∧
      text = (if ds.isEmpty then "" else
        String.join (order.map fun d ↦
          print (d.render (quoted disk source d.span.file)) ++ print "") ++
          print (Diagnostic.summary ds)) ∧
      Diagnostic.summary es = Diagnostic.summary ds ∧
      runOn (printed print source ds) .empty disk = ((.ok text, after), disk) ∧
      runOn (printed print source es) .empty disk = ((.ok text, after), disk) := by
  -- Both reports are of the same sorted list, and the summary does not see the order.
  have hsorted := Diagnostic.sorted_congr horder
  have hsummary := Diagnostic.summary_perm hperm
  have hreadable : ∀ d ∈ Diagnostic.sorted ds,
      Consults source d.span.file → disk.Readable d.span.file :=
    fun d hd ↦ hread d ((Diagnostic.sorted_perm ds).mem_iff.1 hd)
  obtain ⟨after, htexts⟩ := runOn_texts (Repository.reflects_empty disk source) hreadable
  refine ⟨Diagnostic.sorted ds, _, after, Diagnostic.sorted_perm ds, Diagnostic.pairwise_sorted ds,
    Diagnostic.filter_sorted ds, rfl, hsummary.symm, ?_, ?_⟩
  · rw [runOn_printed htexts, List.map_map]
    rfl
  · rw [hsorted] at htexts
    rw [runOn_printed htexts, List.map_map, hsorted, hsummary, hperm.isEmpty_eq]
    rfl

/-- A disk with one file, which holds one letter. -/
def letterDisk : Disk := ⟨[], [(["a"], .file [120])]⟩

/-- Something about the first character of a file. -/
def noteOn (file message : String) : Diagnostic where
  severity := .warning
  code := "CSAST1004"
  message := message
  span := Diagnostic.fileSpan file
  notes := []
  help := []
  labels := []

theorem letterDisk_readable : letterDisk.Readable "a" ∧ letterDisk.Readable "b" := by
  refine ⟨fun bytes hbytes ↦ ?_, fun bytes hbytes ↦ ?_⟩
  · have hread : letterDisk.read (Pathname.ofString "a") = .ok [120] := by with_unfolding_all rfl
    obtain rfl : [120] = bytes := Except.ok.inj (hread.symm.trans hbytes)
    with_unfolding_all rfl
  · have hread : letterDisk.read (Pathname.ofString "b") = .error .notFound := by
      with_unfolding_all rfl
    exact absurd (hread.symm.trans hbytes) (by simp)

/-- Two diagnostics about the letter, and one about a file that is not there. Those about the letter
keep their order, and wherever the other one stands, the same is printed. -/
theorem printed_of_reordered_letter :
    quoted letterDisk none "a" = some ⟨['x'], "a"⟩ ∧ quoted letterDisk none "b" = none ∧
      letterDisk.Readable "a" ∧ letterDisk.Readable "b" ∧
      ∃ text after,
        runOn (printed (· ++ "\n") none
          [noteOn "b" "", noteOn "a" "first", noteOn "a" "second"]) .empty letterDisk =
            ((.ok text, after), letterDisk) ∧
        runOn (printed (· ++ "\n") none
          [noteOn "a" "first", noteOn "b" "", noteOn "a" "second"]) .empty letterDisk =
            ((.ok text, after), letterDisk) := by
  obtain ⟨hletter, hmissing⟩ := letterDisk_readable
  have hkeys : (noteOn "b" "").key ≠ (noteOn "a" "first").key := by decide
  have hread : ∀ d ∈ [noteOn "b" "", noteOn "a" "first", noteOn "a" "second"],
      Consults none d.span.file → letterDisk.Readable d.span.file := by
    intro d hd _
    rcases List.mem_cons.1 hd with rfl | hd
    · exact hmissing
    · rcases List.mem_cons.1 hd with rfl | hd
      · exact hletter
      · rw [List.mem_singleton.1 hd]
        exact hletter
  obtain ⟨-, text, after, -, -, -, -, -, hds, hes⟩ :=
    printed_of_reordered (· ++ "\n") none letterDisk (List.Perm.swap _ _ _)
      (Diagnostic.filter_swap hkeys [noteOn "a" "second"]) hread
  exact ⟨by with_unfolding_all rfl, by with_unfolding_all rfl, hletter, hmissing, text, after, hds,
    hes⟩

end Report

end CoffeeTree
