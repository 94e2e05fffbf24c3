import LayerAudit.Proofs.Report.Lines
import LayerAudit.Proofs.Store.Recording
import LayerAudit.Report.Format

/-!
# What the options of a report change

Main statement: the options of a report change how it looks and nothing else. Colours are laid over the
headers of the sections and over the summary, line by line, and leave all other lines alone. The detailed
text has a section in the place of a hint, and each text says that nothing was found exactly if it shows
nothing. The report for programs has no options.

File names and messages are written as they are, so one of them may take several lines, and one of these
may look like a header. The lines that have a colour are therefore told by their place among the parts of
the text and not by how they look.
-/

namespace LayerAudit.Report

open Text

/-- A line of a text for readers, and the colour that is laid over it, if any. -/
structure TintedLine where
  text : String
  tint : Option Color

namespace TintedLine

/-- A line without a colour. -/
def plain (text : String) : TintedLine := ⟨text, none⟩

/-- A line as it is written with colours: what switches its colour on, the line, and what switches it
off. -/
def colored (l : TintedLine) : String :=
  match l.tint with
  | some color => color.code ++ l.text ++ colorReset
  | none => l.text

/-- A line as it is written. -/
def written (options : TextOptions) (l : TintedLine) : String :=
  if options.color then l.colored else l.text

/-- The lines of a part. A part with a colour is one line. -/
def split (l : TintedLine) : List TintedLine :=
  match l.tint with
  | some _ => [l]
  | none => (pieces l.text).map plain

variable {options : TextOptions} {l : TintedLine}

/-- Text without a colour is written as it is. -/
@[simp] theorem written_plain (text : String) : (plain text).written options = text := ite_self _

/-- Lines without a colour are written as they are. -/
@[simp] theorem map_written_plain (parts : List String) :
    (parts.map plain).map (written options) = parts := by
  rw [List.map_map]
  exact (List.map_congr_left fun part _ => written_plain part).trans (List.map_id parts)

/-- Among lines without a colour, none has one. -/
@[simp] theorem filter_map_plain (parts : List String) :
    (parts.map plain).filter (·.tint.isSome) = [] := by
  rw [List.filter_map, List.map_eq_nil_iff, List.filter_eq_nil_iff]
  exact fun _ _ => Bool.false_ne_true

/-- The codes of colours hold no line break. -/
theorem isOneLine_code (color : Color) : IsOneLine color.code := by
  cases color <;> decide

/-- A part is written as its lines are, if no line break lies under its colour. -/
theorem pieces_written (h : l.tint.isSome = true → IsOneLine l.text) :
    pieces (l.written options) = l.split.map (written options) := by
  obtain ⟨text, _ | color⟩ := l
  · have hplain : written options ⟨text, none⟩ = text := written_plain text
    rw [hplain]
    exact (map_written_plain (pieces text)).symm
  · have hone : IsOneLine (written options ⟨text, some color⟩) := by
      unfold written
      split
      · exact isOneLine_between (isOneLine_code color) (h rfl) (by decide)
      · exact h rfl
    exact pieces_of_isOneLine hone

/-- The parts with a colour are the lines that have one. -/
theorem filter_split : l.split.filter (·.tint.isSome) = [l].filter (·.tint.isSome) := by
  obtain ⟨text, _ | color⟩ := l
  · exact filter_map_plain (pieces text)
  · rfl

end TintedLine

open TintedLine (plain)

variable {options : TextOptions} {r : Report} {title : String} {color : Color}
  {entries : List Violation} {detailed : Bool}

/-- The header of a section. -/
def header (title : String) (entries : List Violation) : String :=
  title ++ " (" ++ toString entries.length ++ "):"

/-- The headers of the sections that a text has. -/
def headers (detailed : Bool) (r : Report) : List String :=
  (([("Errors", r.errors), ("Warnings", r.warnings)] ++
    if detailed then [("Info", r.info)] else []).filter (!·.2.isEmpty)).map fun s => header s.1 s.2

/-- What a text says if it shows nothing. -/
def nothingFound (options : TextOptions) (r : Report) : List String :=
  if r.shown options = [] then ["No architecture violations found.", ""] else []

/-- What a text says of violations that it does not show. -/
def hint (options : TextOptions) (r : Report) : List String :=
  if options.detailed = true ∨ r.info = [] then []
  else [toString r.info.length ++ " info message(s) hidden, use --detailed to show them."]

/-- What a text says behind its sections. -/
theorem closing_eq : r.closing options =
    r.nothingFound options ++ r.hint options ++ [paint options r.summaryColor r.summary] := by
  have hcount : r.shownCount options = (r.shown options).length := by
    rw [shownCount, shown, List.length_append, List.length_append]
    cases options.detailed <;> rfl
  have hnone : r.shownCount options = 0 ↔ r.shown options = [] := by
    rw [hcount, List.length_eq_zero_iff]
  rw [closing, nothingFound, hint]
  simp only [hnone]
  congr 2
  by_cases hdetailed : options.detailed = true
  · simp [hdetailed]
  · cases r.info <;> simp [hdetailed]

/-- The parts of a section. -/
def tintedSection (title : String) (color : Color) (entries : List Violation) : List TintedLine :=
  if entries.isEmpty then []
  else [⟨header title entries, some color⟩] ++ (entries.map entryLine).map plain ++ [plain ""]

/-- The parts of the sections. -/
def tintedSections (detailed : Bool) (r : Report) : List TintedLine :=
  tintedSection "Errors" .red r.errors ++ tintedSection "Warnings" .yellow r.warnings ++
    if detailed then tintedSection "Info" .blue r.info else []

/-- The parts of the text. -/
def tintedParts (options : TextOptions) (r : Report) : List TintedLine :=
  r.opening.map plain ++ r.tintedSections options.detailed ++
    (r.nothingFound options ++ r.hint options).map plain ++ [⟨r.summary, some r.summaryColor⟩]

/-- A section is written as its parts are. -/
theorem sectionLines_eq_map : sectionLines options title color entries =
    (tintedSection title color entries).map (·.written options) := by
  unfold sectionLines tintedSection
  split
  · rfl
  · simp only [List.map_append, TintedLine.map_written_plain, List.map_singleton,
      TintedLine.written_plain]
    rfl

/-- The text is written as its parts are. -/
theorem textLines_eq_map : r.textLines options = (r.tintedParts options).map (·.written options) := by
  have hsections : r.sections options =
      (r.tintedSections options.detailed).map (·.written options) := by
    simp only [sections, tintedSections, sectionLines_eq_map, List.map_append]
    split <;> rfl
  rw [textLines_eq, closing_eq, hsections, tintedParts]
  simp only [List.map_append, TintedLine.map_written_plain, List.append_assoc, List.map_singleton]
  rfl

/-- The parts of a section that have a colour. -/
theorem filter_tintedSection : (tintedSection title color entries).filter (·.tint.isSome) =
    if entries.isEmpty then [] else [⟨header title entries, some color⟩] := by
  unfold tintedSection
  split
  · rfl
  · simp only [List.filter_append, TintedLine.filter_map_plain]
    rfl

/-- The parts of a text that have a colour are the headers of its sections and the summary. -/
theorem map_text_filter_tintedParts :
    ((r.tintedParts options).filter (·.tint.isSome)).map (·.text) =
      r.headers options.detailed ++ [r.summary] := by
  have hsections : ((r.tintedSections options.detailed).filter (·.tint.isSome)).map (·.text) =
      r.headers options.detailed := by
    unfold tintedSections headers
    cases options.detailed <;> cases r.errors <;> cases r.warnings <;> cases r.info <;>
      simp [filter_tintedSection]
  rw [tintedParts, List.filter_append, List.filter_append, List.filter_append,
    TintedLine.filter_map_plain, TintedLine.filter_map_plain, List.map_append, List.append_nil,
    List.nil_append, hsections]
  rfl

/-- A header fits on one line. -/
theorem isOneLine_of_mem_headers {line : String} (h : line ∈ r.headers detailed) : IsOneLine line := by
  obtain ⟨⟨title, entries⟩, hsection, rfl⟩ := List.mem_map.mp h
  have htitle : title ∈ titles := by
    have hmem := List.mem_map_of_mem (f := Prod.fst) (List.mem_filter.mp hsection).1
    cases detailed
    · exact List.mem_append_left ["Info"] hmem
    · exact hmem
  have hheader : IsHeader entries.length (header title entries) := ⟨title, htitle, rfl⟩
  exact hheader.isOneLine

/-- Under a colour there is no line break. -/
theorem isOneLine_of_tint {l : TintedLine} (hl : l ∈ r.tintedParts options)
    (htint : l.tint.isSome = true) : IsOneLine l.text := by
  have htext : l.text ∈ r.headers options.detailed ++ [r.summary] := by
    rw [← map_text_filter_tintedParts]
    exact List.mem_map_of_mem (List.mem_filter.mpr ⟨hl, htint⟩)
  rcases List.mem_append.mp htext with hheader | hsummary
  · exact isOneLine_of_mem_headers hheader
  · rw [List.mem_singleton.mp hsummary]
    exact isPlain_summary.2

/-- The lines of the text with the colours that are laid over them. -/
def tintedLines (options : TextOptions) (r : Report) : List TintedLine :=
  (r.tintedParts options).flatMap TintedLine.split

/-- The lines of the text are written as its parts are. -/
theorem lines_renderText :
    lines (r.renderText options) = (r.tintedLines options).map (·.written options) := by
  have hpieces : ∀ l ∈ r.tintedParts options,
      pieces (l.written options) = l.split.map (·.written options) := fun l hl =>
    TintedLine.pieces_written (isOneLine_of_tint hl)
  rw [renderText, lines_join_eq_pieces, textLines_eq_map, List.flatMap_map, tintedLines,
    List.map_flatMap]
  exact List.flatMap_congr hpieces

/-- The lines of a text that have a colour are the headers of its sections and the summary. -/
theorem map_text_filter_tintedLines :
    ((r.tintedLines options).filter (·.tint.isSome)).map (·.text) =
      r.headers options.detailed ++ [r.summary] := by
  have hsplit : ∀ l ∈ r.tintedParts options, l.split.filter (·.tint.isSome) =
      if l.tint.isSome then [l] else [] := fun l _ => by
    rw [TintedLine.filter_split, List.filter_cons]
    rfl
  rw [tintedLines, filter_flatMap_eq hsplit, ← map_text_filter_tintedParts, List.flatMap_singleton']

/-- Lines as a text. -/
def joined (parts : List String) : String := String.join (parts.map (· ++ "\n"))

/-- No lines are joined to no text. -/
theorem joined_nil : joined [] = "" := rfl

/-- Lines are joined part by part. -/
theorem joined_append (front back : List String) :
    joined (front ++ back) = joined front ++ joined back := by
  rw [joined, List.map_append, String.join_append]
  rfl

/-- A line is ended by a line break. -/
theorem joined_singleton (part : String) : joined [part] = part ++ "\n" := by
  rw [joined, List.map_singleton, String.join_cons, String.join_nil, String.append_empty]

/-- The lines in front of the section for the lightest violations. -/
def front (color : Bool) (r : Report) : List String :=
  r.opening ++ (sectionLines ⟨true, color⟩ "Errors" .red r.errors ++
    sectionLines ⟨true, color⟩ "Warnings" .yellow r.warnings)

/-- The text, part by part. -/
theorem renderText_eq (detailed color : Bool) (r : Report) :
    r.renderText ⟨detailed, color⟩ =
      joined (r.front color) ++
        joined (if detailed then sectionLines ⟨true, color⟩ "Info" .blue r.info else []) ++
        joined (r.nothingFound ⟨detailed, color⟩) ++ joined (r.hint ⟨detailed, color⟩) ++
        joined [paint ⟨true, color⟩ r.summaryColor r.summary] := by
  have hlines : r.textLines ⟨detailed, color⟩ =
      r.front color ++
        (if detailed then sectionLines ⟨true, color⟩ "Info" .blue r.info else []) ++
        r.nothingFound ⟨detailed, color⟩ ++ r.hint ⟨detailed, color⟩ ++
        [paint ⟨true, color⟩ r.summaryColor r.summary] := by
    rw [textLines_eq, closing_eq, front]
    simp only [sections, List.append_assoc]
    rfl
  change joined (r.textLines ⟨detailed, color⟩) = _
  rw [hlines, joined_append, joined_append, joined_append, joined_append]

/-- A text says that nothing was found exactly if it shows nothing. -/
theorem joined_nothingFound : joined (r.nothingFound options) =
    if r.shown options = [] then "No architecture violations found.\n\n" else "" := by
  unfold nothingFound
  split <;> rfl

/-- The text that is not detailed has a hint exactly if there is something that it does not show. -/
theorem joined_hint (color : Bool) (r : Report) : joined (r.hint ⟨false, color⟩) =
    if r.info = [] then ""
    else toString r.info.length ++ " info message(s) hidden, use --detailed to show them.\n" := by
  unfold hint
  by_cases hinfo : r.info = []
  · rw [if_pos hinfo, if_pos (Or.inr hinfo)]
    rfl
  · rw [if_neg hinfo, if_neg (not_or.mpr ⟨Bool.false_ne_true, hinfo⟩), joined_singleton,
      String.append_assoc]
    rfl

/-- The options of a report change how it looks and nothing else. Without colours and with them the text has
the same lines, apart from the headers of its sections and the summary, which have a colour switched on in
front of them and off behind them. The detailed text has a section for the lightest violations where the
other one has a hint for them, and each says that nothing was found exactly if it shows nothing. If there
are no such violations, the texts are the same. The report for programs is the same for all options. -/
theorem options_change_presentation_only (r : Report) :
    (∀ detailed, ∃ tinted : List TintedLine,
      lines (r.render .console ⟨detailed, false⟩) = tinted.map (·.text) ∧
      lines (r.render .console ⟨detailed, true⟩) = tinted.map (·.colored) ∧
      (tinted.filter (·.tint.isSome)).map (·.text) = r.headers detailed ++ [r.summary]) ∧
    (∀ color,
      let infoSection := joined (sectionLines ⟨true, color⟩ "Info" .blue r.info)
      let hint :=
        if r.info = [] then ""
        else toString r.info.length ++ " info message(s) hidden, use --detailed to show them.\n"
      let nothing (detailed : Bool) :=
        if r.shown ⟨detailed, color⟩ = [] then "No architecture violations found.\n\n" else ""
      let summary := paint ⟨true, color⟩ r.summaryColor r.summary ++ "\n"
      ∃ front,
        r.render .console ⟨true, color⟩ = front ++ infoSection ++ nothing true ++ summary ∧
        r.render .console ⟨false, color⟩ = front ++ nothing false ++ hint ++ summary) ∧
    (r.info = [] → ∀ color, r.render .console ⟨true, color⟩ = r.render .console ⟨false, color⟩) ∧
    ∀ options other, r.render .json options = r.render .json other := by
  have hparts (color : Bool) :
      r.render .console ⟨true, color⟩ = joined (r.front color) ++
        joined (sectionLines ⟨true, color⟩ "Info" .blue r.info) ++
        joined (r.nothingFound ⟨true, color⟩) ++
        joined [paint ⟨true, color⟩ r.summaryColor r.summary] ∧
      r.render .console ⟨false, color⟩ = joined (r.front color) ++
        joined (r.nothingFound ⟨false, color⟩) ++ joined (r.hint ⟨false, color⟩) ++
        joined [paint ⟨true, color⟩ r.summaryColor r.summary] := by
    constructor
    · rw [render, renderText_eq, if_pos rfl, hint, if_pos (Or.inl rfl), joined_nil,
        String.append_empty]
    · rw [render, renderText_eq, if_neg Bool.false_ne_true, joined_nil, String.append_empty]
  refine ⟨fun detailed => ⟨r.tintedLines ⟨detailed, false⟩, lines_renderText, lines_renderText,
    map_text_filter_tintedLines⟩, ?_, fun hinfo color => ?_, fun _ _ => rfl⟩
  · intro color infoSection hint nothing summary
    refine ⟨joined (r.front color), ?_, ?_⟩
    · rw [(hparts color).1, joined_nothingFound, joined_singleton]
    · rw [(hparts color).2, joined_nothingFound, joined_hint, joined_singleton]
  · have hshown : r.shown ⟨true, color⟩ = r.shown ⟨false, color⟩ := by
      rw [shown, hinfo, ite_self]
      rfl
    rw [(hparts color).1, (hparts color).2, joined_nothingFound, joined_nothingFound, joined_hint,
      hshown, hinfo, sectionLines_nil, joined_nil, if_pos rfl, String.append_empty,
      String.append_empty]

/-- A report without anything to hide is the same in detail, although a message of it looks like a header. -/
theorem options_change_presentation_only_nothing_hidden :
    let v : Violation := ⟨.warning, "a.ts", none, .anyType, "broken\nErrors (1):"⟩
    let r : Report := ⟨[], [v], [], ⟨1, 1⟩⟩
    r.info = [] ∧ r.render .console ⟨true, true⟩ = r.render .console ⟨false, true⟩ := by
  intro v r
  exact ⟨rfl, (options_change_presentation_only r).2.2.1 rfl true⟩

end LayerAudit.Report
