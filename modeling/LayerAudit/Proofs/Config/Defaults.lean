import LayerAudit.Config.Read
import LayerAudit.Proofs.Toml.Record
import Mathlib.Data.List.Sort

/-!
# Leaving out settings

Main statement: what a text leaves out has its default, at every level. To state a default that was not
stated, to state an empty table or to leave it out, and to change what means nothing here leave the
configuration as it is; and a rule is off exactly if its own table says so.

Defaults come in at two levels. Where a table is missing the whole record is the default one, and where only
a key is missing its slot holds what it holds by itself. The two are stated apart, and they agree. What remains
is a list of conditions on the configuration, one for each key that means something, and none of them depends
on anything else in the document.

The tables that hold settings are assumed to be tables. Arrays are taken for records as well, and their
items have no names to go by.
-/

namespace LayerAudit

open Toml

/-- A table without a root and without directories to skip says the same as no table. -/
theorem AnalyzerConfig.unset_eq_default : record.unset = default := rfl

/-- A table that does not say how the report is shown says the same as no table. -/
theorem OutputConfig.unset_eq_default : record.unset = default := rfl

/-- A table that does not switch its rule leaves the rule as it is. -/
theorem RuleConfig.unset_eq_default : record.unset = default := rfl

/-- A document without tables is read as the default configuration. -/
theorem Config.unset_eq_default : record.unset = default := rfl

/-- The root is read alike wherever it is written. -/
theorem AnalyzerConfig.isPlaceBlind_decodeRoot : IsPlaceBlind decodeRoot :=
  (isPlaceBlind_decodeText "path string").map Path.mk

/-- The directories to skip are read alike wherever they are written. -/
theorem AnalyzerConfig.isPlaceBlind_decodeExclude : IsPlaceBlind decodeExclude :=
  (isPlaceBlind_decodeText "a string").decodeList

/-- The format is read alike wherever it is written. -/
theorem OutputConfig.isPlaceBlind_decodeFormat : IsPlaceBlind decodeFormat :=
  isPlaceBlind_decodeChoice _ _

/-- The settings of a rule are read alike wherever they are written. -/
theorem RuleConfig.isPlaceBlind_ofToml : IsPlaceBlind ofToml :=
  Record.isPlaceBlind_decode (List.forall_mem_singleton.mpr (isPlaceBlind_decodeBool.map some))

section Entries

variable {entry : Option Toml} (hentry : ∀ value ∈ entry, value.IsDocument)

include hentry

/-- The settings of the analysis are what the keys of their table set. -/
theorem AnalyzerConfig.settingOf_ofToml_iff {c : AnalyzerConfig} :
    settingOf ofToml default entry = some c ↔
      settingOf decodeRoot defaultRoot (entry.bind (field? "root")) = some c.root ∧
        settingOf decodeExclude [] (entry.bind (field? "exclude")) = some c.exclude := by
  rw [← unset_eq_default, ofToml, Record.settingOf_decode_iff hentry]
  simp [record]

/-- The settings of the report are what the keys of their table set. -/
theorem OutputConfig.settingOf_ofToml_iff {c : OutputConfig} :
    settingOf ofToml default entry = some c ↔
      settingOf decodeBool false (entry.bind (field? "detailed")) = some c.detailed ∧
        settingOf decodeFormat .console (entry.bind (field? "format")) = some c.format := by
  rw [← unset_eq_default, ofToml, Record.settingOf_decode_iff hentry]
  simp [record]

/-- The settings of a rule are what the key of its table sets. -/
theorem RuleConfig.settingOf_ofToml_iff {c : RuleConfig} :
    settingOf ofToml default entry = some c ↔
      settingOf decodeEnabled none (entry.bind (field? "enabled")) = some c.enabled := by
  rw [← unset_eq_default, ofToml, Record.settingOf_decode_iff hentry]
  simp [record]

/-- A configuration is what the tables of its document set. -/
theorem Config.settingOf_ofToml_iff {c : Config} :
    settingOf ofToml default entry = some c ↔
      settingOf AnalyzerConfig.ofToml .default (entry.bind (field? "analyzer")) = some c.analyzer ∧
        settingOf OutputConfig.ofToml .default (entry.bind (field? "output")) = some c.output ∧
          settingOf decodeRules [] (entry.bind (field? "rules")) = some c.rules := by
  rw [← unset_eq_default, ofToml, Record.settingOf_decode_iff hentry]
  simp [record]

end Entries

/-- A rule that is read from a table is switched off exactly if the table says so. -/
theorem RuleConfig.enabled_eq_some_false_iff {entry : Toml} (hentry : entry.IsDocument)
    {rule : RuleConfig} (h : ofToml entry = .ok rule) : rule.enabled = some false ↔
      (entry.field? "enabled").map unplaced = some (.boolean nowhere false) := by
  have henabled := (settingOf_ofToml_iff (by rintro _ ⟨⟩; exact hentry)).mp (settingOf_eq_some_iff.mpr h)
  rw [Option.bind_some] at henabled
  cases hfield : entry.field? "enabled" with
  | none =>
    rw [hfield] at henabled
    rw [← Option.some.inj henabled]
    simp
  | some value =>
    rw [hfield, settingOf_eq_some_iff] at henabled
    obtain ⟨b, hb, hsome⟩ := map_eq_ok_iff.mp henabled
    rw [← hsome, Option.map_some, decodeBool_eq_ok_iff.mp hb]
    simp

namespace Config

/-- Settings of rules in the order of their names. -/
def Ordered (rules : List (String × RuleConfig)) : Prop := rules.Pairwise fun r s => r.1 < s.1

variable {rules others : List (String × RuleConfig)}

/-- Among settings in the order of their names, those of a rule are looked up by its name. -/
theorem Ordered.lookup_eq_some_iff (h : Ordered rules) {name : String} {rule : RuleConfig} :
    rules.lookup name = some rule ↔ (name, rule) ∈ rules :=
  lookup_eq_some_iff_mem (List.pairwise_map.mpr (h.imp Std.ne_of_lt))

/-- Settings of rules in the order of their names are the same if they are looked up alike. -/
theorem Ordered.eq_of_lookup_eq (h : Ordered rules) (hothers : Ordered others)
    (hlookup : ∀ name, rules.lookup name = others.lookup name) : rules = others := by
  have : Std.Irrefl fun r s : String × RuleConfig => r.1 < s.1 := ⟨fun _ => Std.lt_irrefl⟩
  refine List.Pairwise.eq_of_mem_iff h hothers fun r => ?_
  rw [← h.lookup_eq_some_iff, ← hothers.lookup_eq_some_iff, hlookup]

/-- Settings of rules that are read from a table are in the order of their names, and each of them is
looked up like the entry that it is read from. -/
theorem lookup_of_decodeRules {value : Toml} (hvalue : value.IsDocument)
    (h : decodeRules value = .ok rules) : Ordered rules ∧ ∀ name,
      settingOf (some <$> RuleConfig.ofToml ·) none (value.field? name) = some (rules.lookup name) := by
  cases value with
  | table span kind fields =>
    obtain ⟨items, hitems, rfl⟩ := map_eq_ok_iff.mp h
    obtain ⟨hnames, hlookup⟩ := lookup_of_mapM_eq_ok (mapError_eq_ok_iff.mp hitems)
    have hdiffer : (items.map Prod.fst).Nodup := hnames ▸ (isDocument_table_iff.mp hvalue).1
    have hsorted : Ordered (byName items) := pairwise_byName hdiffer
    refine ⟨hsorted, fun name => (hlookup name).trans (congrArg some (Option.ext fun rule => ?_))⟩
    rw [lookup_eq_some_iff_mem hdiffer, hsorted.lookup_eq_some_iff]
    exact mem_byName.symm
  | string | integer | float | boolean | moment | array => exact nomatch hvalue.isTable

/-- A table of rules is read if all of its entries are. -/
theorem exists_decodeRules_eq_ok {value : Toml} (hvalue : value.IsDocument)
    (h : ∀ name entry, value.field? name = some entry → ∃ rule, RuleConfig.ofToml entry = .ok rule) :
    ∃ rules, decodeRules value = .ok rules := by
  cases value with
  | table span kind fields =>
    have hnames := (isDocument_table_iff.mp hvalue).1
    obtain ⟨items, hitems⟩ := exists_mapM_eq_ok fun f hf => h f.1.name f.2 (lookup_of_mem hnames hf)
    exact ⟨byName items, map_eq_ok_iff.mpr ⟨items, mapError_eq_ok_iff.mpr hitems, rfl⟩⟩
  | string | integer | float | boolean | moment | array => exact nomatch hvalue.isTable

/-- The settings of the rules are in the order of their names, and there is one for each entry. -/
theorem settingOf_decodeRules_iff {entry : Option Toml} (hentry : ∀ value ∈ entry, value.IsDocument) :
    settingOf decodeRules [] entry = some rules ↔ Ordered rules ∧ ∀ name,
      settingOf (some <$> RuleConfig.ofToml ·) none (entry.bind (field? name)) =
        some (rules.lookup name) := by
  cases entry with
  | none =>
    constructor
    · intro h
      rw [← Option.some.inj h]
      exact ⟨List.Pairwise.nil, fun name => rfl⟩
    · rintro ⟨hordered, hlookup⟩
      have hnil : Ordered [] := List.Pairwise.nil
      exact congrArg some (hnil.eq_of_lookup_eq hordered fun name => Option.some.inj (hlookup name))
  | some value =>
    have hvalue := hentry value rfl
    rw [settingOf_eq_some_iff]
    refine ⟨lookup_of_decodeRules hvalue, fun ⟨hordered, hlookup⟩ => ?_⟩
    -- The table is read, since each entry is, and sorting leaves no choice of the rules that come out.
    obtain ⟨read, hread⟩ := exists_decodeRules_eq_ok hvalue fun name entry hfound => by
      have hrule := hlookup name
      rw [Option.bind_some, hfound, settingOf_eq_some_iff, map_eq_ok_iff] at hrule
      exact hrule.imp fun _ h => h.1
    obtain ⟨hreadOrdered, hreadLookup⟩ := lookup_of_decodeRules hvalue hread
    rw [hread, hreadOrdered.eq_of_lookup_eq hordered fun name =>
      Option.some.inj ((hreadLookup name).symm.trans (hlookup name))]

/-- Whether the entries of a document that hold settings are tables, as far as they are there. -/
structure Tabled (d : Toml) : Prop where
  sections : ∀ name ∈ ["analyzer", "output", "rules"], ∀ value ∈ d.valueAt? [name], value.isTable = true
  rules : ∀ value ∈ d.valueAt? ["rules"], ∀ f ∈ value.fields, f.2.isTable = true

/-- What a document says of a configuration, key by key. -/
structure Reads (d : Toml) (c : Config) : Prop where
  root : settingOf AnalyzerConfig.decodeRoot AnalyzerConfig.defaultRoot
    (d.valueAt? ["analyzer", "root"]) = some c.analyzer.root
  exclude : settingOf AnalyzerConfig.decodeExclude [] (d.valueAt? ["analyzer", "exclude"]) =
    some c.analyzer.exclude
  detailed : settingOf decodeBool false (d.valueAt? ["output", "detailed"]) = some c.output.detailed
  format : settingOf OutputConfig.decodeFormat .console (d.valueAt? ["output", "format"]) =
    some c.output.format
  ordered : Ordered c.rules
  rules : ∀ name, settingOf (some <$> RuleConfig.ofToml ·) none (d.valueAt? ["rules", name]) =
    some (c.rules.lookup name)

variable {d d' : Toml} {c : Config}

/-- The settings of each rule lie in a table, if there are any. -/
theorem Tabled.isDocument_rule (h : Tabled d) (hd : d.IsDocument) {name : String} {entry : Toml}
    (hentry : d.valueAt? ["rules", name] = some entry) : entry.IsDocument := by
  refine ⟨?_, keysDiffer_of_valueAt?_eq_some hd.keysDiffer hentry⟩
  rw [valueAt?_pair] at hentry
  obtain ⟨rules, hrules, hfield⟩ := Option.bind_eq_some_iff.mp hentry
  obtain ⟨f, hf, rfl⟩ := exists_mem_fields_of_field?_eq_some hfield
  exact h.rules rules ((valueAt?_singleton "rules" d).trans hrules) f hf

/-- A document is read as what it says key by key. -/
theorem ofToml_eq_ok_iff (hd : d.IsDocument) (ht : Tabled d) : ofToml d = .ok c ↔ Reads d c := by
  have hsection (name : String) (hname : name ∈ ["analyzer", "output", "rules"]) :
      ∀ value ∈ (some d).bind (field? name), value.IsDocument := fun value hvalue => by
    rw [Option.bind_some, ← valueAt?_singleton] at hvalue
    exact ⟨ht.sections name hname value hvalue, keysDiffer_of_valueAt?_eq_some hd.keysDiffer hvalue⟩
  rw [← @settingOf_eq_some_iff _ ofToml default c d, settingOf_ofToml_iff (by rintro _ ⟨⟩; exact hd),
    AnalyzerConfig.settingOf_ofToml_iff (hsection "analyzer" (by simp)),
    OutputConfig.settingOf_ofToml_iff (hsection "output" (by simp)),
    settingOf_decodeRules_iff (hsection "rules" (by simp))]
  simp only [Option.bind_some, ← valueAt?_pair]
  exact ⟨fun ⟨⟨hroot, hexclude⟩, ⟨hdetailed, hformat⟩, hordered, hrules⟩ =>
    ⟨hroot, hexclude, hdetailed, hformat, hordered, hrules⟩, fun h =>
    ⟨⟨h.root, h.exclude⟩, ⟨h.detailed, h.format⟩, h.ordered, h.rules⟩⟩

/-- A rule is off exactly if its own entry says so. -/
theorem Reads.isRuleEnabled_eq_false_iff (h : Reads d c) (hd : d.IsDocument) (ht : Tabled d)
    (name : String) :
    c.isRuleEnabled name = false ↔ d.said ["rules", name, "enabled"] = some (.boolean nowhere false) := by
  have hrule := h.rules name
  have hsaid : d.said ["rules", name, "enabled"] =
      ((d.valueAt? ["rules", name]).bind (field? "enabled")).map unplaced := by
    rw [said, ← funext (valueAt?_singleton "enabled"), ← valueAt?_append]
    rfl
  rw [hsaid, isRuleEnabled]
  cases hentry : d.valueAt? ["rules", name] with
  | none =>
    rw [hentry] at hrule
    rw [← Option.some.inj hrule]
    simp
  | some entry =>
    rw [hentry, settingOf_eq_some_iff] at hrule
    obtain ⟨rule, hread, hlookup⟩ := map_eq_ok_iff.mp hrule
    rw [← hlookup, Option.bind_some,
      ← RuleConfig.enabled_eq_some_false_iff (ht.isDocument_rule hd hentry) hread]
    change rule.enabled.getD true = false ↔ _
    cases rule.enabled <;> simp

/-- The values that the settings have by default, at the paths of their keys. -/
def defaults : List (List String × Toml) :=
  [(["analyzer", "root"], .string nowhere default.analyzer.root.text),
    (["analyzer", "exclude"], .array nowhere .written (default.analyzer.exclude.map (.string nowhere))),
    (["output", "detailed"], .boolean nowhere default.output.detailed),
    (["output", "format"], .string nowhere default.output.format.name)]

/-- Whether a document says the same as another one of all keys that mean something, but for defaults that
it states and the other leaves out. -/
structure Amends (d d' : Toml) : Prop where
  settings : ∀ s ∈ defaults, d'.said s.1 = d.said s.1 ∨ d.said s.1 = none ∧ d'.said s.1 = some s.2
  rules : ∀ name, d'.said ["rules", name] = d.said ["rules", name]

/-- To state the default of a key that was not stated sets what was set. -/
theorem settingOf_amended {α : Type} {decode : Toml → Decoded α} (hdecode : IsPlaceBlind decode)
    {unset : α} {path : List String} {value : Toml} (hvalue : decode value = .ok unset)
    (h : d'.said path = d.said path ∨ d.said path = none ∧ d'.said path = some value) :
    settingOf decode unset (d'.valueAt? path) = settingOf decode unset (d.valueAt? path) := by
  rw [← settingOf_unplaced hdecode unset (d.valueAt? path),
    ← settingOf_unplaced hdecode unset (d'.valueAt? path)]
  rcases h with hsame | ⟨hnone, hsome⟩
  · exact congrArg (settingOf decode unset) hsame
  · rw [said] at hnone hsome
    rw [hnone, hsome]
    exact settingOf_eq_some_iff.mpr hvalue

/-- A document that is amended says the same of the configuration. -/
theorem Reads.of_amends (h : Reads d c) (ha : Amends d d') : Reads d' c := by
  obtain ⟨hroot, hexclude, hdetailed, hformat, -⟩ :
      _ ∧ _ ∧ _ ∧ _ ∧ _ := by simpa only [defaults, List.forall_mem_cons] using ha.settings
  constructor
  case root => exact (settingOf_amended AnalyzerConfig.isPlaceBlind_decodeRoot rfl hroot).trans h.root
  case exclude =>
    exact (settingOf_amended AnalyzerConfig.isPlaceBlind_decodeExclude rfl hexclude).trans h.exclude
  case detailed => exact (settingOf_amended isPlaceBlind_decodeBool rfl hdetailed).trans h.detailed
  case format => exact (settingOf_amended OutputConfig.isPlaceBlind_decodeFormat rfl hformat).trans h.format
  case ordered => exact h.ordered
  case rules =>
    intro name
    have hblind := RuleConfig.isPlaceBlind_ofToml.map some
    rw [← settingOf_unplaced hblind, ← said, ha.rules name, said, settingOf_unplaced hblind]
    exact h.rules name

/-- A text that writes a document is read as the document is. -/
theorem parse_eq_ok_iff {text : String} (hd : Toml.parse text = some d) :
    parse text = .ok c ↔ ofToml d = .ok c := by
  rw [parse, hd]
  exact mapError_eq_ok_iff

/-- What a text leaves out has its default. A text that states defaults which another one leaves out, and
says the same of all other keys that mean something, gives the same configuration; and a rule is off exactly
if its own entry says so. -/
theorem parse_fills_in_defaults {text text' : String} (hd : Toml.parse text = some d)
    (hd' : Toml.parse text' = some d') (ht : Tabled d) (ht' : Tabled d') (ha : Amends d d')
    (hc : parse text = .ok c) : parse text' = .ok c ∧ ∀ name,
      c.isRuleEnabled name = false ↔
        d.said ["rules", name, "enabled"] = some (.boolean nowhere false) := by
  have hdocument := isDocument_of_parse hd
  have hreads := (ofToml_eq_ok_iff hdocument ht).mp ((parse_eq_ok_iff hd).mp hc)
  refine ⟨?_, hreads.isRuleEnabled_eq_false_iff hdocument ht⟩
  exact (parse_eq_ok_iff hd').mpr
    ((ofToml_eq_ok_iff (isDocument_of_parse hd') ht').mpr (hreads.of_amends ha))

/-- A text with a key that means nothing, an empty table and a rule that is off. -/
def briefText : String := "colour = 1\n[analyzer]\n[rules.type-quality]\nenabled = false\n"

/-- The document that the brief text writes. -/
def briefDocument : Toml :=
  .table none .stated
    [(⟨"colour", ⟨0, 6⟩⟩, .integer ⟨9, 10⟩ 1),
      (⟨"analyzer", ⟨12, 20⟩⟩, .table (some ⟨11, 21⟩) .stated []),
      (⟨"rules", ⟨23, 28⟩⟩, .table none .implied
        [(⟨"type-quality", ⟨29, 41⟩⟩, .table (some ⟨22, 58⟩) .stated
          [(⟨"enabled", ⟨43, 50⟩⟩, .boolean ⟨53, 58⟩ false)])])]

/-- A text with the same rule that states defaults in two tables, and with a table that means nothing. -/
def amendedText : String :=
  "[rules.type-quality]\nenabled = false\n[output]\ndetailed = false\n[analyzer]\nroot = 'src'\n[editor]\n"

/-- The document that the amended text writes. -/
def amendedDocument : Toml :=
  .table none .stated
    [(⟨"rules", ⟨1, 6⟩⟩, .table none .implied
        [(⟨"type-quality", ⟨7, 19⟩⟩, .table (some ⟨0, 36⟩) .stated
          [(⟨"enabled", ⟨21, 28⟩⟩, .boolean ⟨31, 36⟩ false)])]),
      (⟨"output", ⟨38, 44⟩⟩, .table (some ⟨37, 62⟩) .stated
        [(⟨"detailed", ⟨46, 54⟩⟩, .boolean ⟨57, 62⟩ false)]),
      (⟨"analyzer", ⟨64, 72⟩⟩, .table (some ⟨63, 86⟩) .stated
        [(⟨"root", ⟨74, 78⟩⟩, .string ⟨81, 86⟩ "src")]),
      (⟨"editor", ⟨88, 94⟩⟩, .table (some ⟨87, 95⟩) .stated [])]

set_option maxRecDepth 10000 in
/-- The brief text writes the brief document. -/
theorem parse_briefText : Toml.parse briefText = some briefDocument := by
  rw [Toml.parse_of_toList]
  case hchars =>
    simp only [briefText, String.reduceToList]
    rfl
  case hmark => decide +kernel
  decide +kernel

set_option maxRecDepth 10000 in
/-- The amended text writes the amended document. -/
theorem parse_amendedText : Toml.parse amendedText = some amendedDocument := by
  rw [Toml.parse_of_toList]
  case hchars =>
    simp only [amendedText, String.reduceToList]
    rfl
  case hmark => decide +kernel
  decide +kernel

/-- Defaults are stated in an empty table and in a new one, and what means nothing is changed. -/
theorem parse_fills_in_defaults_spelled_out :
    let c : Config := ⟨.default, .default, [("type-quality", ⟨some false⟩)]⟩
    (Tabled briefDocument ∧ Tabled amendedDocument ∧ Amends briefDocument amendedDocument ∧
      parse briefText = .ok c) ∧
      parse amendedText = .ok c ∧ ∀ name, c.isRuleEnabled name = false ↔
        briefDocument.said ["rules", name, "enabled"] = some (.boolean nowhere false) := by
  intro c
  have hbrief : Tabled briefDocument := ⟨by decide +kernel, by decide +kernel⟩
  have hamended : Tabled amendedDocument := ⟨by decide +kernel, by decide +kernel⟩
  have hamends : Amends briefDocument amendedDocument := by
    have hrules : amendedDocument.said ["rules"] = briefDocument.said ["rules"] := by decide +kernel
    refine ⟨by decide +kernel, fun name => ?_⟩
    have hbelow (d : Toml) : d.said ["rules", name] = (d.said ["rules"]).bind (valueAt? [name]) :=
      said_append d ["rules"] [name]
    rw [hbelow, hbelow, hrules]
  have hconfig : parse briefText = .ok c := (parse_eq_ok_iff parse_briefText).mpr (by decide +kernel)
  exact ⟨⟨hbrief, hamended, hamends, hconfig⟩,
    parse_fills_in_defaults parse_briefText parse_amendedText hbrief hamended hamends hconfig⟩

end Config

end LayerAudit
