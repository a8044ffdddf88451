import RelayReputation.Config
import RelayReputation.Proofs.BlankEnds

/-!
# Lists of servers

The servers that an environment names are the fields between the commas, without the blanks around
them and without blank fields. `Written` says how servers can be written as fields, with any blanks
around them and blank fields anywhere, and what is read from a text are the servers that its fields
write.
-/

namespace RelayReputation

open RelayReputation.Text

/-! ### Servers as fields -/

/-- Whether a text can stand for a server in a list. -/
structure IsServerText (s : String) : Prop where
  ne_empty : s ≠ ""
  comma_not_mem : ',' ∉ s.toList
  trimmed : IsTrimmed s.toList

/-- Whether servers can be written as certain fields: each with any blanks around it, and blank
fields anywhere. -/
inductive Written : List String → List String → Prop
  | nil : Written [] []
  | blank {servers fields : List String} {field : String} (hfield : AllBlank field.toList)
    (h : Written servers fields) : Written servers (field :: fields)
  | server {servers fields : List String} {s before after : String} (hs : IsServerText s)
    (hbefore : AllBlank before.toList) (hafter : AllBlank after.toList)
    (h : Written servers fields) : Written (s :: servers) ((before ++ s ++ after) :: fields)

/-- The server of a field, unless it is blank. -/
def serverOf? (field : String) : Option String :=
  if trim field.toList = [] then none else some (String.ofList (trim field.toList))

theorem serverOf?_of_blank {field : String} (h : AllBlank field.toList) :
    serverOf? field = none :=
  if_pos (trim_eq_nil h)

theorem serverOf?_padded {s before after : String} (hs : IsServerText s)
    (hbefore : AllBlank before.toList) (hafter : AllBlank after.toList) :
    serverOf? (before ++ s ++ after) = some s := by
  have hne : s.toList ≠ [] := fun h => hs.ne_empty (String.toList_eq_nil_iff.mp h)
  have htrim : trim (before ++ s ++ after).toList = s.toList := by
    rw [String.toList_append, String.toList_append]
    exact trim_padded hbefore hs.trimmed hne hafter
  rw [serverOf?, htrim, if_neg hne, String.ofList_toList]

theorem isServerText_of_serverOf? {field s : String} (hcomma : ',' ∉ field.toList)
    (h : serverOf? field = some s) : IsServerText s := by
  obtain ⟨hne, hs⟩ := Option.ite_none_left_eq_some.mp h
  obtain rfl := Option.some.inj hs
  obtain ⟨before, after, -, -, hfield⟩ := exists_padding field.toList
  refine ⟨?_, ?_, ?_⟩
  · simpa using hne
  · rw [String.toList_ofList]
    intro hmem
    refine hcomma ?_
    rw [hfield]
    exact List.mem_append_left _ (List.mem_append_right _ hmem)
  · rw [String.toList_ofList]
    exact isTrimmed_trim field.toList

/-- A field without commas writes its server or none. -/
theorem written_cons {servers fields : List String} {field : String}
    (hcomma : ',' ∉ field.toList) (h : Written servers fields) :
    Written ((serverOf? field).toList ++ servers) (field :: fields) := by
  cases hs : serverOf? field with
  | none =>
    have hnil : trim field.toList = [] := by simpa [serverOf?] using hs
    exact .blank (allBlank_of_trim_eq_nil hnil) h
  | some s =>
    obtain ⟨before, after, hbefore, hafter, hfield⟩ := exists_padding field.toList
    have htrim : s.toList = trim field.toList := by
      obtain ⟨-, hs'⟩ := Option.ite_none_left_eq_some.mp hs
      rw [← Option.some.inj hs', String.toList_ofList]
    have heq : field = String.ofList before ++ s ++ String.ofList after := by
      rw [← String.toList_inj]
      simpa [htrim] using hfield
    have hb : AllBlank (String.ofList before).toList := by rwa [String.toList_ofList]
    have ha : AllBlank (String.ofList after).toList := by rwa [String.toList_ofList]
    have hwritten := Written.server (isServerText_of_serverOf? hcomma hs) hb ha h
    rwa [← heq] at hwritten

theorem comma_not_mem_of_allBlank {cs : List Char} (h : AllBlank cs) : ',' ∉ cs :=
  fun hmem => Bool.noConfusion (h ',' hmem)

theorem Written.comma_not_mem {servers fields : List String} (h : Written servers fields) :
    ∀ field ∈ fields, ',' ∉ field.toList := by
  induction h with
  | nil => simp
  | blank hfield _ ih =>
    exact List.forall_mem_cons.mpr ⟨comma_not_mem_of_allBlank hfield, ih⟩
  | server hs hbefore hafter _ ih =>
    refine List.forall_mem_cons.mpr ⟨?_, ih⟩
    simp [String.toList_append, comma_not_mem_of_allBlank hbefore, hs.comma_not_mem,
      comma_not_mem_of_allBlank hafter]

theorem Written.filterMap_eq {servers fields : List String} (h : Written servers fields) :
    fields.filterMap serverOf? = servers := by
  induction h with
  | nil => rfl
  | blank hfield _ ih =>
    rw [List.filterMap_cons_none (serverOf?_of_blank hfield), ih]
  | server hs hbefore hafter _ ih =>
    rw [List.filterMap_cons_some (serverOf?_padded hs hbefore hafter), ih]

theorem written_filterMap {fields : List String} (hcomma : ∀ field ∈ fields, ',' ∉ field.toList) :
    Written (fields.filterMap serverOf?) fields := by
  induction fields with
  | nil => exact .nil
  | cons field fields ih =>
    have hrest := ih fun other hmem => hcomma other (List.mem_cons_of_mem _ hmem)
    have hcons : (field :: fields).filterMap serverOf? =
        (serverOf? field).toList ++ fields.filterMap serverOf? := by
      cases h : serverOf? field <;> simp [h]
    rw [hcons]
    exact written_cons (hcomma field (List.mem_cons_self ..)) hrest

/-! ### Reading -/

def fieldsOf (text : String) : List String := (pieces (· = ',') text.toList).map String.ofList

theorem intercalate_fieldsOf (text : String) : String.intercalate "," (fieldsOf text) = text := by
  have hlists : (fieldsOf text).map String.toList = pieces (· = ',') text.toList := by
    simp [fieldsOf, Function.comp_def]
  rw [← String.toList_inj, String.toList_intercalate, hlists]
  exact intercalate_pieces text.toList

theorem comma_not_mem_of_mem_fieldsOf {text field : String} (h : field ∈ fieldsOf text) :
    ',' ∉ field.toList := by
  obtain ⟨w, hw, rfl⟩ := List.mem_map.mp h
  rw [String.toList_ofList]
  intro hmem
  simpa using not_separator_of_mem_pieces hw ',' hmem

theorem fieldsOf_intercalate {fields : List String} (hne : fields ≠ [])
    (hcomma : ∀ field ∈ fields, ',' ∉ field.toList) :
    fieldsOf (String.intercalate "," fields) = fields := by
  have hpieces : pieces (· = ',') (String.intercalate "," fields).toList =
      fields.map String.toList := by
    rw [String.toList_intercalate]
    refine pieces_intercalate (by decide) (by simpa using hne) ?_
    intro w hw c hc
    obtain ⟨field, hfield, rfl⟩ := List.mem_map.mp hw
    have hother : c ≠ ',' := by
      rintro rfl
      exact hcomma field hfield hc
    simpa using hother
  rw [fieldsOf, hpieces, List.map_map]
  simp [Function.comp_def]

theorem fieldsOf_append_comma (a b : String) :
    fieldsOf (a ++ "," ++ b) = fieldsOf a ++ fieldsOf b := by
  have hlists : (a ++ "," ++ b).toList = a.toList ++ ',' :: b.toList := by
    simp [String.toList_append]
  rw [fieldsOf, hlists, pieces_append_cons (by decide), List.map_append, fieldsOf, fieldsOf]

theorem serversIn_eq (text : String) : serversIn text = (fieldsOf text).filterMap serverOf? := by
  rw [serversIn, fieldsOf]
  induction pieces (· = ',') text.toList with
  | nil => rfl
  | cons w ws ih =>
    cases hw : trim w with
    | nil => simpa [serverOf?, hw] using ih
    | cons c cs => simpa [serverOf?, hw] using ih

theorem serversIn_eq_iff (text : String) (servers : List String) :
    serversIn text = servers ↔
      ∃ fields, Written servers fields ∧ String.intercalate "," fields = text := by
  rw [serversIn_eq]
  constructor
  · rintro rfl
    exact ⟨fieldsOf text, written_filterMap fun _ => comma_not_mem_of_mem_fieldsOf,
      intercalate_fieldsOf text⟩
  · rintro ⟨fields, h, rfl⟩
    cases fields with
    | nil =>
      cases h
      rfl
    | cons field fields =>
      rw [fieldsOf_intercalate (List.cons_ne_nil _ _) h.comma_not_mem, h.filterMap_eq]

theorem serversIn_append_comma (a b : String) :
    serversIn (a ++ "," ++ b) = serversIn a ++ serversIn b := by
  rw [serversIn_eq, fieldsOf_append_comma, List.filterMap_append, ← serversIn_eq, ← serversIn_eq]

theorem isServerText_of_mem_serversIn {text s : String} (h : s ∈ serversIn text) :
    IsServerText s := by
  rw [serversIn_eq] at h
  obtain ⟨field, hfield, hs⟩ := List.mem_filterMap.mp h
  exact isServerText_of_serverOf? (comma_not_mem_of_mem_fieldsOf hfield) hs

/-! ### The servers of an environment -/

/-- The environment whose only variable is the one with the servers. -/
def Environment.onlyServers (text : String) : Environment :=
  fun name => if name = variableMark ++ "DNS_SERVERS" then some text else none

/-- The servers that are read when only their variable is there. -/
def serversRead (text : String) : Except ConfigFault (List String) :=
  (Config.ofEnvironment (.onlyServers text)).map (·.dnsServers)

theorem ofEnvironment_onlyServers (text : String) :
    Config.ofEnvironment (.onlyServers text) = .ok { dnsServers := serversIn text } :=
  rfl

theorem serversRead_eq (text : String) : serversRead text = .ok (serversIn text) := by
  rw [serversRead, ofEnvironment_onlyServers]
  rfl

/-- The servers of an environment without other variables: those of two lists with a comma between
them are those of the one and then those of the other, every one can stand in a list, and a list of
servers is read from exactly the texts that are fields it can be written as, with commas between. -/
theorem servers_of_environment :
    (∀ a b : String, ∃ ofA ofB, serversRead a = .ok ofA ∧ serversRead b = .ok ofB ∧
      serversRead (a ++ "," ++ b) = .ok (ofA ++ ofB)) ∧
    (∀ text : String, ∃ servers, serversRead text = .ok servers ∧ ∀ s ∈ servers, IsServerText s) ∧
    ∀ (text : String) (servers : List String), serversRead text = .ok servers ↔
      ∃ fields, Written servers fields ∧ String.intercalate "," fields = text := by
  refine ⟨fun a b => ?_, fun text => ?_, fun text servers => ?_⟩
  · refine ⟨serversIn a, serversIn b, serversRead_eq a, serversRead_eq b, ?_⟩
    rw [serversRead_eq, serversIn_append_comma]
  · exact ⟨serversIn text, serversRead_eq text, fun s => isServerText_of_mem_serversIn⟩
  · rw [serversRead_eq, Except.ok.injEq]
    exact serversIn_eq_iff text servers

example : serversRead " 192.0.2.53,\u2003, 198.51.100.53 " =
    .ok ["192.0.2.53", "198.51.100.53"] := by
  decide +kernel

end RelayReputation
