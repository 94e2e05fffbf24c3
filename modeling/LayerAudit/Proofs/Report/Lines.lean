import LayerAudit.Proofs.List.Parts
import LayerAudit.Proofs.Text.Lines
import LayerAudit.Report.Text

/-!
# The lines of a report for readers

The text of a report has an indented line for each violation that is shown, and before each run of such
lines a header that tells how many they are. Main statement: without colours this is so exactly if nothing
that is shown has a line break in it. File names and names that come from sources are written as they are,
so a line break in one of them splits a line, and what follows it may look like a violation of its own.

The text is put together from blocks that end with a line that is not indented. What is said of runs is
shown for a section, and carried over to blocks that stand one behind the other.
-/

namespace LayerAudit

open Text

/-- A run of indented lines, as long as it can be, with what stands before and behind it. -/
structure IsRun (lines before run after : List String) : Prop where
  lines_eq : lines = before ++ run ++ after
  ne_nil : run ≠ []
  indented : ∀ line ∈ run, isIndented line = true
  opens : ∀ line ∈ before.getLast?, isIndented line = false
  closes : ∀ line ∈ after.head?, isIndented line = false

/-- The titles of the sections of a report. -/
def Report.titles : List String := ["Errors", "Warnings", "Info"]

/-- Whether a line is the header of a section with a given number of entries. -/
def IsHeader (count : ℕ) (line : String) : Prop :=
  ∃ title ∈ Report.titles, line = title ++ " (" ++ toString count ++ "):"

/-- Whether before each run of indented lines there is a header that tells how many they are. -/
def RunsHeaded (lines : List String) : Prop :=
  ∀ before run after, IsRun lines before run after →
    ∃ header ∈ before.getLast?, IsHeader run.length header

/-- Whether lines are a block: runs have their headers, and no run goes on behind the last line. -/
structure IsBlock (lines : List String) : Prop where
  headed : RunsHeaded lines
  ends : ∀ line ∈ lines.getLast?, isIndented line = false

/-- Lines of which none is indented are a block. -/
theorem isBlock_of_forall {lines : List String} (h : ∀ line ∈ lines, isIndented line = false) :
    IsBlock lines := by
  refine ⟨fun before run after hrun => ?_, fun line hline => h line (List.mem_of_getLast? hline)⟩
  obtain ⟨line, hline⟩ := List.exists_mem_of_ne_nil _ hrun.ne_nil
  have hmem : line ∈ lines := by
    rw [hrun.lines_eq]
    exact List.mem_append_left _ (List.mem_append_right _ hline)
  exact absurd (hrun.indented line hline) (by rw [h line hmem]; decide)

/-- A run that does not take in the first line is a run of the lines behind it. -/
theorem IsRun.tail {line : String} {lines before run after : List String}
    (h : IsRun (line :: lines) (line :: before) run after) : IsRun lines before run after where
  lines_eq := (List.cons.inj h.lines_eq).2
  ne_nil := h.ne_nil
  indented := h.indented
  opens last hlast := by
    refine h.opens last ?_
    rw [List.getLast?_cons, Option.mem_def.mp hlast]
    rfl
  closes := h.closes

/-- Indented lines with an empty line behind them are a single run. -/
theorem IsRun.eq_of_concat {entries before run after : List String}
    (h : IsRun (entries ++ [""]) before run after)
    (hentries : ∀ line ∈ entries, isIndented line = true) : before = [] ∧ run = entries := by
  have hsplit := h.lines_eq
  have hbefore : before = [] := by
    rcases List.eq_nil_or_concat' before with hnil | ⟨init, last, rfl⟩
    · exact hnil
    have hplain : isIndented last = false := h.opens last (List.getLast?_concat ..)
    have hcut : entries ++ [""] = init ++ last :: (run ++ after) := by
      rw [hsplit, List.append_assoc, List.append_assoc, List.singleton_append]
    have hmem : last ∈ entries :=
      mem_of_concat_eq hcut (List.append_ne_nil_of_left_ne_nil h.ne_nil _)
    exact absurd (hentries last hmem) (by rw [hplain]; decide)
  subst hbefore
  rw [List.nil_append] at hsplit
  refine ⟨rfl, ?_⟩
  rcases after with _ | ⟨first, rest⟩
  · -- the empty line would be part of the run
    have hmem : "" ∈ run := by
      rw [← List.append_nil run, ← hsplit]
      exact List.mem_append_right _ List.mem_cons_self
    exact absurd (h.indented "" hmem) (by decide)
  · by_cases hrest : rest = []
    · rw [hrest] at hsplit
      exact (List.append_inj_left' hsplit rfl).symm
    · have hplain : isIndented first = false := h.closes first rfl
      exact absurd (hentries first (mem_of_concat_eq hsplit hrest)) (by rw [hplain]; decide)

/-- Behind a header, entries that it tells the number of and an empty line are a block. -/
theorem isBlock_section {header : String} {entries : List String}
    (hheader : IsHeader entries.length header) (hplain : isIndented header = false)
    (hentries : ∀ line ∈ entries, isIndented line = true) :
    IsBlock ([header] ++ entries ++ [""]) := by
  refine ⟨fun before run after hrun => ?_, fun line hline => ?_⟩
  · cases before with
    | nil =>
      -- the header would be part of the run
      obtain ⟨line, rest, rfl⟩ := List.exists_cons_of_ne_nil hrun.ne_nil
      obtain ⟨rfl, -⟩ := List.cons.inj hrun.lines_eq
      exact absurd (hrun.indented _ List.mem_cons_self) (by rw [hplain]; decide)
    | cons first before =>
      obtain ⟨rfl, -⟩ := List.cons.inj hrun.lines_eq
      obtain ⟨rfl, rfl⟩ := IsRun.eq_of_concat (IsRun.tail hrun) hentries
      exact ⟨header, rfl, hheader⟩
  · rw [List.getLast?_concat] at hline
    rw [← Option.some.inj hline]
    decide

/-- Behind lines that end without an indented one, a run lies before the seam or behind it. -/
theorem IsRun.append_cases {front back before run after : List String}
    (h : IsRun (front ++ back) before run after)
    (hends : ∀ line ∈ front.getLast?, isIndented line = false) :
    (∃ rest, IsRun front before run rest) ∨
      ∃ part, before = front ++ part ∧ IsRun back part run after := by
  have hsplit := h.lines_eq
  rw [List.append_eq_append_iff] at hsplit
  obtain ⟨rest, hrest, hback⟩ | ⟨rest, hfront, rfl⟩ := hsplit
  · rw [List.append_eq_append_iff] at hrest
    obtain ⟨part, hpart, hrun⟩ | ⟨part, rfl, rfl⟩ := hrest
    · rcases List.eq_nil_or_concat' part with rfl | ⟨init, last, rfl⟩
      · rw [List.nil_append] at hrun
        rw [List.append_nil] at hpart
        exact Or.inr ⟨[], by rw [hpart, List.append_nil], ⟨by rw [hback, hrun]; rfl, h.ne_nil,
          h.indented, fun _ hnone => (nomatch hnone), h.closes⟩⟩
      · -- the lines before the seam would end within the run
        have hplain : isIndented last = false :=
          hends last (by rw [hpart, ← List.append_assoc]; exact List.getLast?_concat ..)
        have hmem : last ∈ run := by
          rw [hrun]
          exact List.mem_append_left _ (List.mem_append_right _ List.mem_cons_self)
        exact absurd (h.indented last hmem) (by rw [hplain]; decide)
    · exact Or.inr ⟨part, rfl, ⟨hback, h.ne_nil, h.indented,
        fun line hline => h.opens line (List.mem_getLast?_append_of_mem_getLast? hline), h.closes⟩⟩
  · exact Or.inl ⟨rest, ⟨hfront, h.ne_nil, h.indented, h.opens,
      fun line hline => h.closes line (List.mem_head?_append_of_mem_head? hline)⟩⟩

/-- Two blocks, one behind the other, are a block. -/
theorem IsBlock.append {front back : List String} (hfront : IsBlock front) (hback : IsBlock back) :
    IsBlock (front ++ back) := by
  refine ⟨fun before run after hrun => ?_, fun line hline => ?_⟩
  · rcases hrun.append_cases hfront.ends with ⟨rest, hinFront⟩ | ⟨part, rfl, hinBack⟩
    · exact hfront.headed _ _ _ hinFront
    · obtain ⟨header, hlast, hheader⟩ := hback.headed _ _ _ hinBack
      exact ⟨header, List.mem_getLast?_append_of_mem_getLast? hlast, hheader⟩
  · rw [List.getLast?_append] at hline
    rcases hlast : back.getLast? with _ | last
    · rw [hlast] at hline
      exact hfront.ends line hline
    · rw [hlast] at hline
      exact hback.ends line (hlast ▸ hline)

section Header

variable {count : ℕ} {line : String}

/-- A header is not indented. -/
theorem IsHeader.isIndented_eq_false (h : IsHeader count line) : isIndented line = false := by
  obtain ⟨title, htitle, rfl⟩ := h
  rw [String.append_assoc, String.append_assoc]
  simp only [Report.titles, List.mem_cons, List.not_mem_nil, or_false] at htitle
  rcases htitle with rfl | rfl | rfl <;> exact Text.isIndented_eq_false (by decide)

/-- A header fits on one line. -/
theorem IsHeader.isOneLine (h : IsHeader count line) : IsOneLine line := by
  obtain ⟨title, htitle, rfl⟩ := h
  have hone : IsOneLine title := by
    simp only [Report.titles, List.mem_cons, List.not_mem_nil, or_false] at htitle
    rcases htitle with rfl | rfl | rfl <;> decide
  exact isOneLine_between (isOneLine_append.mpr ⟨hone, by decide⟩) (isOneLine_toString count) (by decide)

end Header

namespace Report

variable {options : TextOptions} {r : Report} {title : String} {color : Color}
  {entries : List Violation} {line : String}

/-- The violations that the text shows. -/
def shown (options : TextOptions) (r : Report) : List Violation :=
  r.errors ++ r.warnings ++ if options.detailed then r.info else []

/-- What is shown stands in the report. -/
theorem mem_violations_of_mem_shown {v : Violation} (h : v ∈ r.shown options) : v ∈ r.violations := by
  rw [shown] at h
  rcases List.mem_append.mp h with hgraver | hinfo
  · exact List.mem_append_left _ hgraver
  · split at hinfo
    · exact List.mem_append_right _ hinfo
    · exact nomatch hinfo

/-- The line of a violation that is shown. -/
def entryLine (v : Violation) : String := "  " ++ v.display

/-- The names of codes fit on one line. -/
theorem isOneLine_name_code (code : Code) : IsOneLine code.name := by
  cases code <;> decide

/-- A violation is written without line breaks exactly if its file and its message are. -/
theorem isOneLine_display {v : Violation} :
    IsOneLine v.display ↔ IsOneLine v.file ∧ IsOneLine v.message := by
  have hlocation : IsOneLine v.location ↔ IsOneLine v.file := by
    unfold Violation.location
    split
    · rw [isOneLine_append, isOneLine_append, and_iff_left (isOneLine_toString _),
        and_iff_left (by decide)]
    · rfl
  have hopening : IsOneLine " [" := by decide
  have hclosing : IsOneLine "] " := by decide
  simp only [Violation.display, isOneLine_append, hlocation, hopening, isOneLine_name_code, hclosing,
    and_true]

/-- Whether every violation that is shown takes one line: the indented lines of the text are the lines of
the violations that it shows, in order, and the header before each run of them tells how many they are. -/
structure EntriesTakeOneLine (options : TextOptions) (r : Report) : Prop where
  entries : (lines (r.renderText options)).filter isIndented = (r.shown options).map entryLine
  headed : RunsHeaded (lines (r.renderText options))

/-- The line of a violation is indented. -/
theorem isIndented_entryLine (v : Violation) : isIndented (entryLine v) = true := by
  rw [entryLine, isIndented, List.isPrefixOf_iff_prefix, String.toList_append]
  exact List.prefix_append _ _

/-- A violation takes one line exactly if what is displayed of it does. -/
theorem isOneLine_entryLine {v : Violation} : IsOneLine (entryLine v) ↔ IsOneLine v.display := by
  rw [entryLine, isOneLine_append, and_iff_right (by decide)]

section Sections

/-- A section without colours starts with a header that tells the number of its entries. -/
theorem sectionLines_eq (color : Color) (hcolor : options.color = false) (htitle : title ∈ titles)
    (hentries : entries ≠ []) :
    ∃ header, IsHeader entries.length header ∧
      sectionLines options title color entries = [header] ++ entries.map entryLine ++ [""] := by
  refine ⟨_, ⟨title, htitle, rfl⟩, ?_⟩
  rw [sectionLines, if_neg (by rwa [List.isEmpty_iff]), paint, if_neg (by rw [hcolor]; decide)]
  rfl

/-- Where there is nothing to show there is no section. -/
theorem sectionLines_nil : sectionLines options title color [] = [] := rfl

/-- A section is a block. -/
theorem isBlock_sectionLines (hcolor : options.color = false) (htitle : title ∈ titles) :
    IsBlock (sectionLines options title color entries) := by
  by_cases hentries : entries = []
  · rw [hentries, sectionLines_nil]
    exact isBlock_of_forall fun _ hnone => nomatch hnone
  obtain ⟨header, hheader, hsection⟩ := sectionLines_eq color hcolor htitle hentries
  rw [hsection]
  refine isBlock_section (by rwa [List.length_map]) hheader.isIndented_eq_false fun line hline => ?_
  obtain ⟨v, -, rfl⟩ := List.mem_map.mp hline
  exact isIndented_entryLine v

/-- The indented parts of a section are its entries. -/
theorem filter_sectionLines (hcolor : options.color = false) (htitle : title ∈ titles) :
    (sectionLines options title color entries).filter isIndented = entries.map entryLine := by
  by_cases hentries : entries = []
  · rw [hentries]
    rfl
  obtain ⟨header, hheader, hsection⟩ := sectionLines_eq color hcolor htitle hentries
  have hall : (entries.map entryLine).filter isIndented = entries.map entryLine := by
    rw [List.filter_eq_self]
    intro line hline
    obtain ⟨v, -, rfl⟩ := List.mem_map.mp hline
    exact isIndented_entryLine v
  have hnone : [header].filter isIndented = [] := by
    rw [List.filter_singleton, hheader.isIndented_eq_false]
    rfl
  rw [hsection, List.filter_append, List.filter_append, hall, hnone, List.nil_append]
  exact List.append_nil _

/-- The parts of a section fit on one line each if its entries do. -/
theorem isOneLine_of_mem_sectionLines (hcolor : options.color = false) (htitle : title ∈ titles)
    (hone : ∀ v ∈ entries, IsOneLine v.display)
    (h : line ∈ sectionLines options title color entries) : IsOneLine line := by
  have hentries : entries ≠ [] := by
    rintro rfl
    exact nomatch h
  obtain ⟨header, hheader, hsection⟩ := sectionLines_eq color hcolor htitle hentries
  rw [hsection, List.mem_append, List.mem_append, List.mem_singleton, List.mem_singleton] at h
  obtain (rfl | hentry) | rfl := h
  · exact hheader.isOneLine
  · obtain ⟨v, hv, rfl⟩ := List.mem_map.mp hentry
    exact isOneLine_entryLine.mpr (hone v hv)
  · decide

end Sections

/-- Whether a line is neither indented nor broken. -/
def IsPlain (line : String) : Prop := isIndented line = false ∧ IsOneLine line

/-- The lines that open the text. -/
def opening (r : Report) : List String :=
  ["Architecture analysis: " ++ toString r.stats.filesScanned ++ " file(s) scanned", ""]

/-- The lines behind the sections: what is said if there is nothing to show, the number of what is not
shown, and the summary. -/
def closing (options : TextOptions) (r : Report) : List String :=
  (if r.shownCount options = 0 then ["No architecture violations found.", ""] else []) ++
    (if !options.detailed && !r.info.isEmpty then
      [toString r.info.length ++ " info message(s) hidden, use --detailed to show them."]
    else []) ++
    [paint options r.summaryColor r.summary]

/-- The sections of the text. -/
def sections (options : TextOptions) (r : Report) : List String :=
  sectionLines options "Errors" .red r.errors ++ sectionLines options "Warnings" .yellow r.warnings ++
    if options.detailed then sectionLines options "Info" .blue r.info else []

/-- A report for readers has an opening, its sections and a closing. -/
theorem textLines_eq : r.textLines options = r.opening ++ r.sections options ++ r.closing options := by
  simp only [textLines, opening, sections, closing, List.append_assoc]

/-- An empty line is plain. -/
theorem isPlain_empty : IsPlain "" := ⟨by decide, by decide⟩

/-- The opening lines are plain. -/
theorem isPlain_of_mem_opening (h : line ∈ r.opening) : IsPlain line := by
  rw [opening, List.mem_pair] at h
  rcases h with rfl | rfl
  · refine ⟨?_, isOneLine_between (by decide) (isOneLine_toString _) (by decide)⟩
    rw [String.append_assoc]
    exact Text.isIndented_eq_false (by decide)
  · exact isPlain_empty

/-- The line that tells how much is hidden is plain. -/
theorem isPlain_hidden (count : ℕ) :
    IsPlain (toString count ++ " info message(s) hidden, use --detailed to show them.") :=
  ⟨isIndented_toString_append count _, isOneLine_append.mpr ⟨isOneLine_toString count, by decide⟩⟩

/-- The summary is plain. -/
theorem isPlain_summary : IsPlain r.summary := by
  unfold summary
  refine ⟨?_, isOneLine_between (isOneLine_between (isOneLine_between (by decide)
    (isOneLine_toString _) (by decide)) (isOneLine_toString _) (by decide)) (isOneLine_toString _)
    (by decide)⟩
  simp only [String.append_assoc]
  exact Text.isIndented_eq_false (by decide)

/-- The closing lines are plain. -/
theorem isPlain_of_mem_closing (hcolor : options.color = false) (h : line ∈ r.closing options) :
    IsPlain line := by
  rw [closing, List.mem_append, List.mem_append] at h
  obtain (hnothing | hhidden) | hsummary := h
  · split at hnothing
    · rw [List.mem_pair] at hnothing
      rcases hnothing with rfl | rfl
      · exact ⟨by decide, by decide⟩
      · exact isPlain_empty
    · exact nomatch hnothing
  · split at hhidden
    · rw [List.mem_singleton.mp hhidden]
      exact isPlain_hidden _
    · exact nomatch hhidden
  · rw [List.mem_singleton.mp hsummary, paint, if_neg (by rw [hcolor]; decide)]
    exact isPlain_summary

/-- The sections are a block. -/
theorem isBlock_sections (hcolor : options.color = false) : IsBlock (r.sections options) := by
  refine IsBlock.append (IsBlock.append ?_ ?_) ?_
  · exact isBlock_sectionLines hcolor (by decide)
  · exact isBlock_sectionLines hcolor (by decide)
  · split
    · exact isBlock_sectionLines hcolor (by decide)
    · exact isBlock_of_forall fun _ hnone => nomatch hnone

/-- The text is a block. -/
theorem isBlock_textLines (hcolor : options.color = false) : IsBlock (r.textLines options) := by
  rw [textLines_eq]
  refine IsBlock.append (IsBlock.append ?_ (isBlock_sections hcolor)) ?_
  · exact isBlock_of_forall fun line hline => (isPlain_of_mem_opening hline).1
  · exact isBlock_of_forall fun line hline => (isPlain_of_mem_closing hcolor hline).1

/-- The indented parts of the sections are the violations that are shown. -/
theorem filter_sections (hcolor : options.color = false) :
    (r.sections options).filter isIndented = (r.shown options).map entryLine := by
  rw [sections, shown, List.filter_append, List.filter_append,
    filter_sectionLines hcolor (by decide), filter_sectionLines hcolor (by decide),
    List.map_append, List.map_append]
  congr 1
  split
  · exact filter_sectionLines hcolor (by decide)
  · rfl

/-- The indented parts of the text are the violations that are shown. -/
theorem filter_textLines (hcolor : options.color = false) :
    (r.textLines options).filter isIndented = (r.shown options).map entryLine := by
  have hopening : r.opening.filter isIndented = [] :=
    List.filter_eq_nil_iff.mpr fun line hline => by
      rw [(isPlain_of_mem_opening hline).1]
      decide
  have hclosing : (r.closing options).filter isIndented = [] :=
    List.filter_eq_nil_iff.mpr fun line hline => by
      rw [(isPlain_of_mem_closing hcolor hline).1]
      decide
  rw [textLines_eq, List.filter_append, List.filter_append, hopening, hclosing,
    filter_sections hcolor, List.nil_append, List.append_nil]

/-- The parts of the text fit on one line each if the violations that are shown do. -/
theorem isOneLine_of_mem_textLines (hcolor : options.color = false)
    (hone : ∀ v ∈ r.shown options, IsOneLine v.display) (h : line ∈ r.textLines options) :
    IsOneLine line := by
  rw [textLines_eq, List.mem_append, List.mem_append] at h
  obtain (hopening | hsections) | hclosing := h
  · exact (isPlain_of_mem_opening hopening).2
  · rw [sections, List.mem_append, List.mem_append] at hsections
    obtain (herrors | hwarnings) | hinfo := hsections
    · refine isOneLine_of_mem_sectionLines hcolor (by decide) (fun v hv => hone v ?_) herrors
      exact List.mem_append_left _ (List.mem_append_left _ hv)
    · refine isOneLine_of_mem_sectionLines hcolor (by decide) (fun v hv => hone v ?_) hwarnings
      exact List.mem_append_left _ (List.mem_append_right _ hv)
    · split at hinfo
      next hdetailed =>
        refine isOneLine_of_mem_sectionLines hcolor (by decide) (fun v hv => hone v ?_) hinfo
        rw [shown, if_pos hdetailed]
        exact List.mem_append_right _ hv
      · exact nomatch hinfo
  · exact (isPlain_of_mem_closing hcolor hclosing).2

/-- Without colours, every violation that is shown takes one line exactly if none of them is written with
a line break. -/
theorem entriesTakeOneLine_iff (hcolor : options.color = false) :
    r.EntriesTakeOneLine options ↔ ∀ v ∈ r.shown options, IsOneLine v.display := by
  constructor
  · intro h v hv
    have hline : entryLine v ∈ (lines (r.renderText options)).filter isIndented := by
      rw [h.entries]
      exact List.mem_map_of_mem hv
    exact isOneLine_entryLine.mp (isOneLine_of_mem_lines (List.mem_of_mem_filter hline))
  · intro hone
    have hlines : lines (r.renderText options) = r.textLines options :=
      lines_join fun line hline => isOneLine_of_mem_textLines hcolor hone hline
    refine ⟨?_, ?_⟩
    · rw [hlines, filter_textLines hcolor]
    · rw [hlines]
      exact (isBlock_textLines hcolor).headed

end Report

end LayerAudit
