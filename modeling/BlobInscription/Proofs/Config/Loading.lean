import BlobInscription.Proofs.Config.Layers
import BlobInscription.Proofs.Datum.Display
import BlobInscription.Proofs.Number.Comparison
import BlobInscription.Proofs.PathName

namespace BlobInscription

/-- The errors by which a configuration is refused. All others come from reading one of its
values. -/
def ConfigError.isRefusal : ConfigError → Bool
  | .endpoint (.invalid _) => true
  | .endpoint _ | .form _ | .invalidValue _ | .undecodableFile _ | .pathNotText _
  | .unknownHome => false
  | _ => true

namespace Config

open Traversal
open Datum (ne_empty_of_toText succeeds_toText_text)

/-- What the service relies on. -/
structure Usable (c : Config) : Prop where
  user_ne : c.rpc.user ≠ ""
  password_ne : c.rpc.password ≠ ""
  rollup_ne : c.rollup ≠ ""
  depth_nonneg : 0 ≤ c.depth
  interval_number : c.interval.isNaN = false
  interval_nonneg : c.interval.lt .zero = false
  zeroBytes_le : c.filter.zeroBytes ≤ 32

/-- The entries of a section; none when it cannot be read. -/
def Sources.sectionEntries (s : Sources) (part : String) : List (Datum × Datum) :=
  (s.sectionOf part).toOption.getD []

/-- The layers of a section when there are no overrides. -/
def Sources.layers (s : Sources) (part : String) : Layers :=
  { overrides := [], env := s.env, file := s.sectionEntries part }

def Sources.setting (s : Sources) (part key name : String) : Datum :=
  (s.layers part).pick key name

/-- The configuration is refused. -/
abbrev Refuses (e : ConfigError) : Prop :=
  e.isRefusal = true

/-- No number is beyond the range in which it is read, and what shows no number has a text for the
error. -/
def Legible {α : Type} (read : Datum → Except FormError α) (d : Datum) (nesting : Nat) : Prop :=
  FailsOnly (fun e => e.isOverflow = false ∧ Succeeds (d.toText nesting)) (read d)

/-- What counts as given has a text: no integer in it is too long for one, and no collection too
deep. -/
def Shown (d : Datum) (nesting : Nat) : Prop :=
  d.truthy = true → Succeeds (d.toText nesting)

/-- Every setting of a document is of a form that its reading foresees. -/
structure Foreseen (s : Sources) (content : String) : Prop where
  /-- The file is a document that is not nested too deep. -/
  document : Succeeds (Yaml.document content s.nesting)
  /-- Its scalars have values, and no node is an alias of one around it. -/
  values : FailsOnly (· = .malformed) (Yaml.read content s.nesting)
  endpoint : FailsOnly (fun e => ∃ url, e = .invalid url)
    (Rpc.Endpoint.ofDatum (s.setting "rpc" "endpoint" "BITCOIN_DA_RPC_URL"))
  user : Shown (s.setting "rpc" "user" "BITCOIN_DA_RPC_USER") s.nesting
  password : Shown (s.setting "rpc" "password" "BITCOIN_DA_RPC_PASSWORD") s.nesting
  port : Legible Datum.toInteger (Datum.lookup (s.sectionEntries "rpc") "port") s.nesting
  rollup : Shown (s.setting "da" "rollup_name" "BITCOIN_DA_ROLLUP_NAME") s.nesting
  /-- An integer that is too long is no name of a network, and refused as such. -/
  network : (s.setting "da" "network" "BITCOIN_DA_NETWORK").truthy = true →
    (s.setting "da" "network" "BITCOIN_DA_NETWORK").toText s.nesting ≠ .error .tooDeep
  address : Shown (s.setting "da" "address" "BITCOIN_DA_ADDRESS") s.nesting
  privateKey : Shown
    (s.setting "da" "sequencer_da_private_key" "BITCOIN_DA_SEQUENCER_PRIVATE_KEY") s.nesting
  depth : Legible Datum.toInteger
    (s.setting "da" "finality_depth" "BITCOIN_DA_FINALITY_DEPTH") s.nesting
  interval : Legible Datum.toFloat
    (s.setting "da" "polling_interval_seconds" "BITCOIN_DA_POLLING_INTERVAL") s.nesting
  interval_number :
    (s.setting "da" "polling_interval_seconds" "BITCOIN_DA_POLLING_INTERVAL").toFloat ≠ .ok .nan
  zeroBytes : Legible Datum.toInteger
    (s.setting "da" "completeness_prefix_bytes" "BITCOIN_DA_COMPLETENESS_PREFIX_BYTES") s.nesting
  checkpoints : (s.setting "da" "checkpoint_dir" "BITCOIN_DA_CHECKPOINT_DIR").truthy = true →
    Succeeds (pathOf s.homes (s.setting "da" "checkpoint_dir" "BITCOIN_DA_CHECKPOINT_DIR"))

section Values

variable {α : Type} {read : Datum → Except FormError α} {invalid : String → ConfigError}
  {d absent : Datum} {nesting : Nat} {source : String}

theorem failsOnly_mapError {ε : Type} {p : ConfigError → Prop} {x : Except ε α}
    {f : ε → ConfigError} (h : FailsOnly (fun e => p (f e)) x) : FailsOnly p (x.mapError f) := by
  cases x with
  | error e => exact failsOnly_error (h e rfl)
  | ok a => exact failsOnly_ok a

theorem failsOnly_of_succeeds {p : ConfigError → Prop} {x : Except ConfigError α}
    (h : Succeeds x) : FailsOnly p x := by
  obtain ⟨a, rfl⟩ := h
  exact failsOnly_ok a

@[simp] theorem succeeds_textOf : Succeeds (textOf d nesting) ↔ Succeeds (d.toText nesting) := by
  simp only [textOf, Succeeds, mapError_eq_ok]

theorem failsOnly_readNumber? (hinvalid : ∀ shown, Refuses (invalid shown))
    (h : Legible read d nesting) : FailsOnly Refuses (readNumber? read invalid d nesting) := by
  rw [readNumber?]
  split
  · exact failsOnly_ok _
  · split
    · exact failsOnly_ok _
    · rename_i error herror
      obtain ⟨hrange, hshown⟩ := h error herror
      rw [if_neg (by simp [hrange])]
      refine failsOnly_bind (failsOnly_of_succeeds (succeeds_textOf.mpr hshown)) ?_
      intro shown _
      exact failsOnly_error (hinvalid shown)

theorem legible_of_readNumber? {x? : Option α}
    (hnull : FailsOnly (fun e => e.isOverflow = false) (read .null))
    (h : readNumber? read invalid d nesting = .ok x?) : Legible read d nesting := by
  intro error herror
  rw [readNumber?] at h
  split at h
  · rename_i hd
    rw [eq_null_of_isNull hd] at herror ⊢
    exact ⟨hnull error herror, "None", rfl⟩
  · rw [herror] at h
    dsimp only at h
    split at h
    · cases h
    · obtain ⟨_, -, h⟩ := bind_eq_ok.mp h
      cases h

theorem legible_of_readInt? {n? : Option Int} (h : readInt? source d nesting = .ok n?) :
    Legible Datum.toInteger d nesting :=
  legible_of_readNumber? (failsOnly_error rfl) h

theorem legible_of_readFloat? {x? : Option Binary64} (h : readFloat? source d nesting = .ok x?) :
    Legible Datum.toFloat d nesting :=
  legible_of_readNumber? (failsOnly_error rfl) h

theorem readFloat?_eq_nan_iff :
    readFloat? source d nesting = .ok (some .nan) ↔ d.toFloat = .ok .nan := by
  rw [readFloat?, readNumber?]
  split
  · rename_i hd
    have hnull : Datum.null.toFloat = .error (.notFloat "NoneType") := rfl
    rw [eq_null_of_isNull hd, hnull]
    simp
  · cases hread : d.toFloat with
    | ok x => simp
    | error error =>
        dsimp only
        split
        · simp
        · simp [bind_eq_ok, throw, throwThe, MonadExceptOf.throw]

/-- A variable is a text, and a text shows integers of any size. -/
theorem legible_fromEnv (env : List (String × String)) (name : String) :
    Legible Datum.toInteger (fromEnv env name) nesting := by
  rw [fromEnv]
  split
  · rename_i value _
    change FailsOnly _ (Datum.integerOfText value _)
    rw [Datum.integerOfText]
    split
    · exact failsOnly_ok _
    · exact failsOnly_error ⟨rfl, succeeds_toText_text value nesting⟩
    · exact failsOnly_error ⟨rfl, succeeds_toText_text value nesting⟩
  · exact failsOnly_error ⟨rfl, "None", rfl⟩

theorem forall_orElse {p : Datum → Prop} (habsent : p absent) :
    p (orElse d absent) ↔ (d.truthy = true → p d) := by
  rw [orElse]
  split
  · rename_i hd
    simp [hd]
  · rename_i hd
    simp [hd, habsent]

theorem succeeds_textOf_orElse {t : String} :
    Succeeds (textOf (orElse d (.text t)) nesting) ↔ Shown d nesting := by
  rw [succeeds_textOf, Shown]
  exact forall_orElse (p := fun d => Succeeds (d.toText nesting)) (succeeds_toText_text t nesting)

end Values

section Files

variable {s : Sources} {content part : String} {file : List (Datum × Datum)}

theorem sectionEntries_of_sectionOf (h : s.sectionOf part = .ok file) :
    s.sectionEntries part = file := by
  rw [Sources.sectionEntries, h]
  rfl

theorem failsOnly_sectionOf (hfile : s.file = .text content)
    (h : FailsOnly (· = .malformed) (Yaml.read content s.nesting)) :
    FailsOnly Refuses (s.sectionOf part) := by
  have hyaml : FailsOnly Refuses (s.readYaml content) := by
    rw [Sources.readYaml]
    cases hread : Yaml.read content s.nesting with
    | ok value => exact failsOnly_ok value
    | error e =>
        have hmalformed : e = .malformed := h e hread
        rw [hmalformed]
        exact failsOnly_error rfl
  have hentries : FailsOnly Refuses s.entries := by
    rw [Sources.entries, hfile]
    refine failsOnly_bind hyaml ?_
    intro value _
    split
    · exact failsOnly_ok _
    · split
      · exact failsOnly_error rfl
      · exact failsOnly_ok _
  rw [Sources.sectionOf]
  refine failsOnly_bind hentries ?_
  intro entries _
  split
  · exact failsOnly_ok _
  · split
    · exact failsOnly_error rfl
    · exact failsOnly_ok _

theorem succeeds_read_of_sectionOf (hfile : s.file = .text content)
    (h : s.sectionOf part = .ok file) : Succeeds (Yaml.read content s.nesting) := by
  rw [Sources.sectionOf, Sources.entries, hfile, bind_eq_ok] at h
  obtain ⟨entries, hentries, -⟩ := h
  obtain ⟨value, hvalue, -⟩ := bind_eq_ok.mp hentries
  rw [Sources.readYaml] at hvalue
  cases hread : Yaml.read content s.nesting with
  | ok value => exact succeeds_ok value
  | error e =>
      rw [hread] at hvalue
      cases e <;> cases hvalue

theorem succeeds_document_of_read {nesting : Nat} (h : Succeeds (Yaml.read content nesting)) :
    Succeeds (Yaml.document content nesting) := by
  obtain ⟨node?, hdocument, -⟩ := succeeds_bind.mp h
  exact ⟨node?, hdocument⟩

end Files

section Loading

variable {s : Sources} {content : String} {d : Datum} {l : Layers} {c : Config}

theorem overrideEntries_of_not_truthy (h : d.truthy = false) : overrideEntries d = .ok [] := by
  rw [overrideEntries, if_neg (by simp [h])]

theorem failsOnly_endpoint
    (h : FailsOnly (fun e => ∃ url, e = .invalid url)
      (Rpc.Endpoint.ofDatum (l.pick "endpoint" "BITCOIN_DA_RPC_URL"))) :
    FailsOnly Refuses (endpoint l) := by
  apply failsOnly_mapError
  intro e he
  obtain ⟨url, rfl⟩ := h e he
  rfl

theorem failsOnly_portOf {path : PathName} {e : Rpc.Endpoint} {nesting : Nat}
    (hoverride : (Datum.lookup l.overrides "port").isNull = true)
    (h : Legible Datum.toInteger (Datum.lookup l.file "port") nesting) :
    FailsOnly Refuses (portOf path l e nesting) := by
  have hnone : readInt? "overrides" .null nesting = .ok none := rfl
  rw [portOf, Layers.values]
  dsimp only
  rw [eq_null_of_isNull hoverride, hnone]
  refine failsOnly_bind (failsOnly_ok none) ?_
  intro _ _
  refine failsOnly_bind (failsOnly_readNumber? (fun _ => rfl) (legible_fromEnv _ _)) ?_
  intro _ _
  refine failsOnly_bind (failsOnly_readNumber? (fun _ => rfl) h) ?_
  intro _ _
  exact failsOnly_ok _

theorem legible_of_portOf {path : PathName} {e : Rpc.Endpoint} {nesting : Nat} {port : Int}
    (h : portOf path l e nesting = .ok port) :
    Legible Datum.toInteger (Datum.lookup l.file "port") nesting := by
  rw [portOf] at h
  obtain ⟨_, -, h⟩ := bind_eq_ok.mp h
  obtain ⟨_, -, h⟩ := bind_eq_ok.mp h
  obtain ⟨_, hread, -⟩ := bind_eq_ok.mp h
  exact legible_of_readInt? hread

theorem sectionOf_overrides (part : String) :
    ({ s with overrides := d } : Sources).sectionOf part = s.sectionOf part :=
  rfl

theorem failsOnly_connection (hfile : s.file = .text content) (hd : d.truthy = false)
    (hs : Foreseen s content) : FailsOnly Refuses (connection { s with overrides := d }) := by
  refine failsOnly_bind (failsOnly_sectionOf hfile hs.values) ?_
  intro file hsection
  rw [sectionOf_overrides] at hsection
  rw [overrideEntries_of_not_truthy hd, ← sectionEntries_of_sectionOf hsection]
  refine failsOnly_bind (failsOnly_ok _) ?_
  rintro _ ⟨⟩
  refine failsOnly_bind (failsOnly_endpoint hs.endpoint) ?_
  intro e _
  refine failsOnly_check rfl ?_
  intro hgiven
  simp only [Bool.or_eq_true, Bool.not_eq_true', not_or, Bool.not_eq_false] at hgiven
  refine failsOnly_bind (failsOnly_portOf rfl hs.port) ?_
  intro port _
  refine failsOnly_bind (failsOnly_of_succeeds (succeeds_textOf.mpr (hs.user hgiven.1))) ?_
  intro user _
  refine failsOnly_bind (failsOnly_of_succeeds (succeeds_textOf.mpr (hs.password hgiven.2))) ?_
  intro password _
  exact failsOnly_ok _

theorem failsOnly_networkOf {nesting : Nat}
    (h : (l.pick "network" "BITCOIN_DA_NETWORK").truthy = true →
      (l.pick "network" "BITCOIN_DA_NETWORK").toText nesting ≠ .error .tooDeep) :
    FailsOnly Refuses (networkOf l nesting) := by
  have hregtest : (Datum.text Network.regtest.name).toText nesting ≠ .error .tooDeep := nofun
  have hnamed := (forall_orElse (p := fun d => d.toText nesting ≠ .error .tooDeep) hregtest).mpr h
  rw [networkOf]
  generalize orElse (l.pick "network" "BITCOIN_DA_NETWORK") _ = named at hnamed
  split
  · exact failsOnly_error rfl
  · rename_i hdeep
    exact absurd hdeep hnamed
  · split
    · exact failsOnly_ok _
    · exact failsOnly_error rfl

theorem ne_tooDeep_of_networkOf {nesting : Nat} {network : Network}
    (h : networkOf l nesting = .ok network) :
    (l.pick "network" "BITCOIN_DA_NETWORK").truthy = true →
      (l.pick "network" "BITCOIN_DA_NETWORK").toText nesting ≠ .error .tooDeep := by
  intro hgiven hdeep
  rw [networkOf, orElse, if_pos hgiven, hdeep] at h
  cases h

theorem failsOnly_limitsOf (hs : Foreseen s content) :
    FailsOnly Refuses (limitsOf (s.layers "da") s.nesting) := by
  refine failsOnly_bind (failsOnly_readNumber? (fun _ => rfl) hs.depth) ?_
  intro depth? _
  refine failsOnly_bind (failsOnly_readNumber? (fun _ => rfl) hs.interval) ?_
  intro interval? _
  refine failsOnly_bind (failsOnly_readNumber? (fun _ => rfl) hs.zeroBytes) ?_
  intro zeroBytes? _
  refine failsOnly_check rfl ?_
  intro _
  split
  · exact failsOnly_ok _
  · split
    · exact failsOnly_ok _
    · exact failsOnly_error rfl

theorem succeeds_pathOf_default (homes : List (String × String)) :
    Succeeds (pathOf homes (.text defaultCheckpoints)) := by
  have hpath : PathName.ofText defaultCheckpoints = ⟨"", ["reveal-checkpoints"]⟩ :=
    PathName.ofText_of_not_mem (by decide) (by decide)
  refine ⟨PathName.ofText defaultCheckpoints, ?_⟩
  rw [pathOf, hpath]
  rfl

theorem succeeds_pathOf_orElse {homes : List (String × String)} :
    Succeeds (pathOf homes (orElse d (.text defaultCheckpoints))) ↔
      (d.truthy = true → Succeeds (pathOf homes d)) :=
  forall_orElse (p := fun d => Succeeds (pathOf homes d)) (succeeds_pathOf_default homes)

theorem failsOnly_load (hfile : s.file = .text content) (hoverrides : s.overrides.truthy = false)
    (hs : Foreseen s content) : FailsOnly Refuses (load s) := by
  refine failsOnly_bind (failsOnly_sectionOf hfile hs.values) ?_
  intro file hsection
  rw [overrideEntries_of_not_truthy hoverrides, ← sectionEntries_of_sectionOf hsection]
  refine failsOnly_bind (failsOnly_ok _) ?_
  rintro _ ⟨⟩
  refine failsOnly_bind (failsOnly_connection hfile rfl hs) ?_
  intro rpc _
  refine failsOnly_check rfl ?_
  intro hrollup
  rw [Bool.not_eq_true', Bool.not_eq_false] at hrollup
  refine failsOnly_bind (failsOnly_networkOf hs.network) ?_
  intro network _
  refine failsOnly_bind (failsOnly_limitsOf hs) ?_
  rintro ⟨depth, interval, filter⟩ _
  -- Beyond this point nothing is refused, so all of it must be there.
  refine failsOnly_bind (failsOnly_of_succeeds (succeeds_textOf.mpr (hs.rollup hrollup))) ?_
  intro rollup _
  refine failsOnly_bind (failsOnly_of_succeeds (succeeds_textOf_orElse.mpr hs.address)) ?_
  intro address _
  refine failsOnly_bind (failsOnly_of_succeeds (succeeds_textOf_orElse.mpr hs.privateKey)) ?_
  intro privateKey _
  refine failsOnly_bind (failsOnly_of_succeeds (succeeds_pathOf_orElse.mpr hs.checkpoints)) ?_
  intro path _
  exact failsOnly_ok _

theorem exists_of_limitsOf {nesting : Nat} {depth : Int} {interval : Binary64}
    {filter : SampleFilter} (h : limitsOf l nesting = .ok (depth, interval, filter)) :
    ∃ depth? interval? zeroBytes?,
      readInt? "finality_depth" (l.pick "finality_depth" "BITCOIN_DA_FINALITY_DEPTH") nesting =
        .ok depth? ∧
      readFloat? "polling_interval_seconds"
        (l.pick "polling_interval_seconds" "BITCOIN_DA_POLLING_INTERVAL") nesting =
        .ok interval? ∧
      readInt? "completeness_prefix_bytes"
        (l.pick "completeness_prefix_bytes" "BITCOIN_DA_COMPLETENESS_PREFIX_BYTES") nesting =
        .ok zeroBytes? ∧
      0 ≤ depth ∧ interval = interval?.getD defaultInterval ∧ interval.lt .zero = false := by
  simp only [limitsOf, bind_eq_ok, check_bind_eq_ok, Bool.or_eq_true, decide_eq_true_eq, not_or,
    Int.not_lt, Bool.not_eq_true] at h
  obtain ⟨depth?, hdepth, interval?, hinterval, zeroBytes?, hzeroBytes, ⟨hnonneg, hlt⟩, h⟩ := h
  refine ⟨depth?, interval?, zeroBytes?, hdepth, hinterval, hzeroBytes, ?_⟩
  split at h
  · cases h
    exact ⟨hnonneg, rfl, hlt⟩
  · split at h
    · cases h
      exact ⟨hnonneg, rfl, hlt⟩
    · cases h

/-- What the settings of a connection are, and where they come from. -/
structure Connects (s : Sources) (c : Rpc.Connection) : Prop where
  endpoint : Succeeds (Rpc.Endpoint.ofDatum (s.setting "rpc" "endpoint" "BITCOIN_DA_RPC_URL"))
  port : Legible Datum.toInteger (Datum.lookup (s.sectionEntries "rpc") "port") s.nesting
  user_given : (s.setting "rpc" "user" "BITCOIN_DA_RPC_USER").truthy = true
  user : (s.setting "rpc" "user" "BITCOIN_DA_RPC_USER").toText s.nesting = .ok c.user
  password_given : (s.setting "rpc" "password" "BITCOIN_DA_RPC_PASSWORD").truthy = true
  password :
    (s.setting "rpc" "password" "BITCOIN_DA_RPC_PASSWORD").toText s.nesting = .ok c.password

theorem connects_of_connection {rpc : Rpc.Connection} (hd : d.truthy = false)
    (h : connection { s with overrides := d } = .ok rpc) : Connects s rpc := by
  obtain ⟨file, overrides, e, hsection, hentries, he, huser, hpassword, hport, hshown, hshown', -⟩ :=
    exists_of_connection h
  rw [overrideEntries_of_not_truthy hd] at hentries
  cases hentries
  rw [sectionOf_overrides] at hsection
  rw [← sectionEntries_of_sectionOf hsection] at he huser hpassword hport hshown hshown'
  rw [textOf, mapError_eq_ok] at hshown hshown'
  exact ⟨⟨e, he⟩, legible_of_portOf hport, huser, hshown, hpassword, hshown'⟩

/-- What the settings of a configuration are, and where they come from. -/
structure Loads (s : Sources) (c : Config) : Prop where
  file : ∃ file, s.sectionOf "da" = .ok file
  rpc : Connects s c.rpc
  rollup_given : (s.setting "da" "rollup_name" "BITCOIN_DA_ROLLUP_NAME").truthy = true
  rollup : (s.setting "da" "rollup_name" "BITCOIN_DA_ROLLUP_NAME").toText s.nesting = .ok c.rollup
  network : networkOf (s.layers "da") s.nesting = .ok c.network
  limits : limitsOf (s.layers "da") s.nesting = .ok (c.depth, c.interval, c.filter)
  address : textOf (orElse (s.setting "da" "address" "BITCOIN_DA_ADDRESS") (.text "")) s.nesting =
    .ok c.address
  privateKey : textOf (orElse (s.setting "da" "sequencer_da_private_key"
    "BITCOIN_DA_SEQUENCER_PRIVATE_KEY") (.text "")) s.nesting = .ok c.privateKey
  checkpoints : pathOf s.homes (orElse (s.setting "da" "checkpoint_dir" "BITCOIN_DA_CHECKPOINT_DIR")
    (.text defaultCheckpoints)) = .ok c.checkpoints

theorem loads_of_load (hoverrides : s.overrides.truthy = false) (h : load s = .ok c) :
    Loads s c := by
  simp only [load, bind_eq_ok, check_bind_eq_ok] at h
  obtain ⟨file, hsection, overrides, hentries, rpc, hrpc, hrollup, network, hnetwork,
    ⟨depth, interval, filter⟩, hlimits, rollup, hshown, address, haddress, privateKey, hprivateKey,
    path, hpath, hc⟩ := h
  rw [overrideEntries_of_not_truthy hoverrides] at hentries
  cases hentries
  cases hc
  rw [Bool.not_eq_true', Bool.not_eq_false] at hrollup
  rw [textOf, mapError_eq_ok] at hshown
  have hlayers : s.layers "da" = { overrides := [], env := s.env, file } := by
    rw [Sources.layers, sectionEntries_of_sectionOf hsection]
  rw [← hlayers] at hrollup hnetwork hlimits hshown haddress hprivateKey hpath
  exact {
    file := ⟨file, hsection⟩
    rpc := connects_of_connection rfl hrpc
    rollup_given := hrollup
    rollup := hshown
    network := hnetwork
    limits := hlimits
    address := haddress
    privateKey := hprivateKey
    checkpoints := hpath }

theorem usable_of_loads (h : Loads s c) (hnumber : c.interval.isNaN = false) : Usable c := by
  obtain ⟨-, -, -, -, -, -, hdepth, -, hinterval⟩ := exists_of_limitsOf h.limits
  exact {
    user_ne := ne_empty_of_toText h.rpc.user_given h.rpc.user
    password_ne := ne_empty_of_toText h.rpc.password_given h.rpc.password
    rollup_ne := ne_empty_of_toText h.rollup_given h.rollup
    depth_nonneg := hdepth
    interval_number := hnumber
    interval_nonneg := hinterval
    zeroBytes_le := c.filter.zeroBytes_le }

theorem foreseen_of_loads (hfile : s.file = .text content) (h : Loads s c)
    (hnumber : c.interval.isNaN = false) : Foreseen s content := by
  obtain ⟨file, hsection⟩ := h.file
  obtain ⟨e, he⟩ := h.rpc.endpoint
  have hread := succeeds_read_of_sectionOf hfile hsection
  obtain ⟨depth?, interval?, zeroBytes?, hdepth, hinterval, hzeroBytes, -, hgiven, -⟩ :=
    exists_of_limitsOf h.limits
  refine {
    document := succeeds_document_of_read hread
    values := ?_
    endpoint := ?_
    user := fun _ => ⟨_, h.rpc.user⟩
    password := fun _ => ⟨_, h.rpc.password⟩
    port := h.rpc.port
    rollup := fun _ => ⟨_, h.rollup⟩
    network := ne_tooDeep_of_networkOf h.network
    address := succeeds_textOf_orElse.mp ⟨_, h.address⟩
    privateKey := succeeds_textOf_orElse.mp ⟨_, h.privateKey⟩
    depth := legible_of_readInt? hdepth
    interval := legible_of_readFloat? hinterval
    interval_number := ?_
    zeroBytes := legible_of_readInt? hzeroBytes
    checkpoints := succeeds_pathOf_orElse.mp ⟨_, h.checkpoints⟩ }
  · obtain ⟨value, hvalue⟩ := hread
    rw [hvalue]
    exact failsOnly_ok value
  · rw [he]
    exact failsOnly_ok e
  · intro hnan
    rw [Sources.setting, ← readFloat?_eq_nan_iff, hinterval, Except.ok.injEq] at hnan
    rw [hgiven, hnan] at hnumber
    cases hnumber

theorem isNaN_of_foreseen (h : Loads s c) (hs : Foreseen s content) :
    c.interval.isNaN = false := by
  obtain ⟨-, interval?, -, -, hinterval, -, -, hgiven, -⟩ := exists_of_limitsOf h.limits
  rw [hgiven]
  cases interval? with
  | none => rw [Option.getD_none, defaultInterval, Binary64.isNaN_ofRatio]
  | some x =>
      cases x with
      | nan => exact absurd (readFloat?_eq_nan_iff.mp hinterval) hs.interval_number
      | infinite negative => rfl
      | finite negative units => rfl

end Loading

end Config

end BlobInscription
