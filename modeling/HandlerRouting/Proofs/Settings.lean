import HandlerRouting.Document.Settings
import HandlerRouting.Router

/-!
What holds of settings wherever they come from. Those that are read are fit for a router, and where
data is refused, every report names a key of it.
-/

namespace HandlerRouting

theorem Datum.eq_of_same_text {key : Datum} {name : String} (alike : key == .text name) :
    key = .text name := by
  change key.same (.text name) = true at alike
  cases key <;> simp_all [Datum.same, Datum.whole?]

theorem Datum.mem_of_field {fields : List (Datum × Datum)} {name : String} {given : Datum}
    (found : Datum.field? fields name = some given) : (.text name, given) ∈ fields := by
  obtain ⟨⟨key, value⟩, first, rfl⟩ := Option.map_eq_some_iff.mp found
  have alike := List.find?_some first
  exact Datum.eq_of_same_text alike ▸ List.mem_of_find?_eq_some first

namespace Settings

theorem valid_default : ({} : Settings).Valid where
  capacity := by decide
  media := rfl

theorem capacity_of_ok {given : Datum} {n : Nat} (read : capacityOf given = .ok n) : 0 < n := by
  unfold capacityOf at read
  split at read
  · cases read
  · split at read
    · cases read
      omega
    · cases read

theorem media_of_text_ok {s text : String} {m : MediaType}
    (read : mediaOfText s = .ok (text, m)) : MediaType.parse text = .ok m := by
  unfold mediaOfText at read
  split at read
  next parsed =>
    cases read
    exact parsed
  next => cases read

theorem media_of_ok {given : Datum} {text : String} {m : MediaType}
    (read : mediaOf given = .ok (text, m)) : MediaType.parse text = .ok m := by
  unfold mediaOf at read
  split at read
  case h_1 => exact media_of_text_ok read
  case h_3 =>
    split at read
    · exact media_of_text_ok read
    · cases read
  all_goals cases read

section Fields
variable {α : Type} {fields : List (Datum × Datum)} {name : String} {default : α}
  {read : Datum → Except FieldFlaw α}

theorem read_field_ok {p : α → Prop} {value : α} (ofDefault : p default)
    (ofGiven : ∀ given found, read given = .ok found → p found)
    (success : readField fields name default read = .ok value) : p value := by
  unfold readField at success
  split at success
  · cases success
    exact ofDefault
  · split at success
    next readIt =>
      cases success
      exact ofGiven _ _ readIt
    next => cases success

/-- What a report speaks of: a key that was given. -/
def Names (fields : List (Datum × Datum)) (report : FieldReport) : Prop :=
  ∃ key value, (key, value) ∈ fields ∧ report.field = some (.ofKey key)

theorem names_of_field {report : FieldReport}
    (reported : report ∈ reportOf (readField fields name default read)) :
    Names fields report := by
  unfold readField at reported
  split at reported
  · simp [reportOf] at reported
  next given found =>
    split at reported
    · simp [reportOf] at reported
    · obtain rfl := List.mem_singleton.mp reported
      exact ⟨_, given, Datum.mem_of_field found, rfl⟩

end Fields

theorem field_of_unknown {key : Datum} {report : FieldReport}
    (unknown : unknownKey key = some report) : report.field = some (.ofKey key) := by
  unfold unknownKey at unknown
  split at unknown
  next name =>
    obtain ⟨_, same⟩ := Option.ite_none_left_eq_some.mp unknown
    obtain rfl := Option.some.inj same
    rfl
  next =>
    obtain rfl := Option.some.inj unknown
    rfl

theorem names_of_unknown {fields : List (Datum × Datum)} {report : FieldReport}
    (reported : report ∈ fields.filterMap fun (key, _) => unknownKey key) :
    Names fields report := by
  obtain ⟨⟨key, value⟩, member, unknown⟩ := List.mem_filterMap.mp reported
  exact ⟨key, value, member, field_of_unknown unknown⟩

theorem ok_of_no_report {α : Type} {read : Except FieldReport α} (silent : reportOf read = []) :
    ∃ value, read = .ok value := by
  cases read with
  | ok value => exact ⟨value, rfl⟩
  | error report => cases silent

theorem of_fields_valid {fields : List (Datum × Datum)} {s : Settings}
    (success : ofFields fields = .ok s) : s.Valid := by
  simp only [ofFields] at success
  split at success
  next capacity media _ _ =>
    cases success
    exact
      { capacity := read_field_ok valid_default.capacity (fun _ _ => capacity_of_ok) capacity
        media := read_field_ok (p := fun found => MediaType.parse found.1 = .ok found.2)
          valid_default.media (fun _ _ => media_of_ok) media }
  next => cases success

theorem of_fields_refused {fields : List (Datum × Datum)} {reports : List FieldReport}
    (failure : ofFields fields = .error reports) :
    reports ≠ [] ∧ ∀ report ∈ reports, Names fields report := by
  simp only [ofFields] at failure
  split at failure
  next => cases failure
  next incomplete =>
    cases failure
    constructor
    · intro silent
      simp only [List.append_eq_nil_iff] at silent
      obtain ⟨⟨⟨capacity, media⟩, follow⟩, known⟩ := silent
      obtain ⟨_, capacity⟩ := ok_of_no_report capacity
      obtain ⟨_, media⟩ := ok_of_no_report media
      obtain ⟨_, follow⟩ := ok_of_no_report follow
      exact incomplete _ _ _ _ capacity media follow known
    · intro report reported
      simp only [List.mem_append] at reported
      obtain ((reported | reported) | reported) | reported := reported
      · exact names_of_field reported
      · exact names_of_field reported
      · exact names_of_field reported
      · exact names_of_unknown reported

theorem of_datum_valid {data : Datum} {s : Settings} (success : ofDatum data = .ok s) :
    s.Valid := by
  unfold ofDatum at success
  split at success
  · cases success
    exact valid_default
  · simp only at success
    split at success
    · cases success
      exact valid_default
    · split at success
      · split at success
        next read =>
          cases success
          exact of_fields_valid read
        next => cases success
      · cases success
  · cases success

end Settings

/-- The cache of a router is one that its capacity allows to be made. -/
theorem Router.cache_of_valid {s : Settings} (valid : s.Valid) (h : Hierarchy) (name : String)
    (table : RoutingTable) :
    RecencyCache.make? s.cacheCapacity = some (make h name s table).cache := by
  simp [RecencyCache.make?, make, Nat.pos_iff_ne_zero.mp valid.capacity]

namespace Document

theorem ok_of_map_error {ε ε' α : Type} {read : Except ε α} {f : ε → ε'} {value : α}
    (success : read.mapError f = .ok value) : read = .ok value := by
  cases read with
  | ok given =>
    cases success
    rfl
  | error failure => cases success

/-- Whatever the loader makes of a document, the settings that are read from it are valid. -/
theorem settings_by_valid {load : List Char → Except Fault Datum} {path text : String}
    {s : Settings} (success : settingsBy load path text = .ok s) : s.Valid := by
  unfold settingsBy at success
  split at success
  · cases success
  · split at success
    · exact Settings.of_datum_valid (ok_of_map_error success)
    · exact Settings.of_datum_valid (ok_of_map_error success)
    · cases success

end Document

end HandlerRouting
