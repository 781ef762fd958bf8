import NdbOperator.ConfigGenerator

set_option autoImplicit false

/-!
# Reading the generated config back

What the text of `GetConfigString` says when it is read as an ini file: the sections in order,
each with its key-value pairs. The operator's own lines read as they are written whenever the
names pasted into them hold no line break; a line of the user's `ManagementNodeConfig` or
`DataNodeConfig` is pasted unescaped, so it reads as the key-value pair only when it is one line
that the reader takes for that pair.
-/

namespace NdbOperator

def NoNewline (s : String) : Prop := '\n' ∉ s.toList

instance (s : String) : Decidable (NoNewline s) := inferInstanceAs (Decidable (_ ∉ _))

@[simp] theorem noNewline_append (s t : String) :
    NoNewline (s ++ t) ↔ NoNewline s ∧ NoNewline t := by
  simp [NoNewline, String.data_append]

theorem digit_of_mem_toDigitsCore (fuel n : Nat) (ds : List Char) (h : ∀ c ∈ ds, c.isDigit) :
    ∀ c ∈ Nat.toDigitsCore 10 fuel n ds, c.isDigit := by
  have hd : ∀ d < 10, (Nat.digitChar d).isDigit = true := by decide
  induction fuel generalizing n ds with
  | zero => exact h
  | succ fuel ih =>
    simp only [Nat.toDigitsCore]
    have hc : ∀ c ∈ Nat.digitChar (n % 10) :: ds, c.isDigit := by
      simpa [hd _ (Nat.mod_lt n (by omega))] using h
    split
    · exact hc
    · exact ih _ _ hc

theorem noNewline_toString_nat (n : Nat) : NoNewline (toString n) := fun hm => by
  have := digit_of_mem_toDigitsCore (n + 1) n [] (by simp) '\n' hm
  revert this
  decide

@[simp] theorem noNewline_toString_int (n : Int) : NoNewline (toString n) := by
  cases n with
  | ofNat m => exact noNewline_toString_nat m
  | negSucc m =>
    change NoNewline ("-" ++ toString (m + 1))
    exact (noNewline_append _ _).mpr ⟨by decide, noNewline_toString_nat (m + 1)⟩

/-- A key that reads back as itself in front of `=`. -/
def plainKey (key : String) : Bool :=
  match key.toList with
  | c :: _ => !c.isWhitespace && c != '#' && c != '[' && !key.toList.contains '='
  | [] => false

theorem takeWhile_ne_eq {l : List Char} (r : List Char) (h : '=' ∉ l) :
    (l ++ '=' :: r).takeWhile (· ≠ '=') = l := by
  induction l with
  | nil => simp
  | cons c cs ih =>
    have hc : c ≠ '=' := fun e => h (e ▸ List.mem_cons_self c cs)
    rw [List.cons_append, List.takeWhile_cons_of_pos (by simpa using hc),
      ih (fun m => h (List.mem_cons_of_mem c m))]

theorem dropWhile_ne_eq {l : List Char} (r : List Char) (h : '=' ∉ l) :
    (l ++ '=' :: r).dropWhile (· ≠ '=') = '=' :: r := by
  induction l with
  | nil => simp
  | cons c cs ih =>
    have hc : c ≠ '=' := fun e => h (e ▸ List.mem_cons_self c cs)
    rw [List.cons_append, List.dropWhile_cons_of_pos (by simpa using hc),
      ih (fun m => h (List.mem_cons_of_mem c m))]

theorem classifyLine_keyValue {key : String} (value : String) (hk : plainKey key = true) :
    classifyLine (key ++ "=" ++ value).toList = .entry key value := by
  rcases key with ⟨_ | ⟨c, cs⟩⟩
  · simp [plainKey] at hk
  · have hk' : (!c.isWhitespace && c != '#' && c != '[' && !(c :: cs).contains '=') = true := hk
    simp only [Bool.and_eq_true, Bool.not_eq_true', bne_iff_ne, ne_eq,
      List.contains_eq_any_beq, List.any_eq_false, beq_iff_eq] at hk'
    obtain ⟨⟨⟨hw, hh⟩, hb⟩, he⟩ := hk'
    have he' : '=' ∉ c :: cs := fun m => he _ m rfl
    have hl : (String.mk (c :: cs) ++ "=" ++ value).toList = (c :: cs) ++ '=' :: value.toList :=
      by simp [String.data_append]
    rw [hl, classifyLine, takeWhile_ne_eq _ he', dropWhile_ne_eq _ he']
    simp [hw, hh, hb]

/-! ### The lines of the template -/

section Literals

theorem classifyLine_empty : classifyLine "".toList = .blank := rfl

theorem classifyLine_autoGenerated : classifyLine "# Auto generated config.ini - DO NOT EDIT".toList = .comment := by decide

theorem classifyLine_serverPortComment : classifyLine "# Use a fixed ServerPort for all data nodes".toList = .comment := by decide

theorem classifyLine_mysqldComment : classifyLine "# MySQLD sections to be used exclusively by MySQL Servers".toList = .comment := by decide

theorem classifyLine_apiComment : classifyLine "# API sections to be used by generic NDBAPI applications".toList = .comment := by decide

theorem classifyLine_system : classifyLine "[system]".toList = .header "system" := by decide

theorem classifyLine_mgmdDefault : classifyLine "[ndb_mgmd default]".toList = .header "ndb_mgmd default" := by decide

theorem classifyLine_ndbdDefault : classifyLine "[ndbd default]".toList = .header "ndbd default" := by decide

theorem classifyLine_tcpDefault : classifyLine "[tcp default]".toList = .header "tcp default" := by decide

theorem classifyLine_mgmd : classifyLine "[ndb_mgmd]".toList = .header "ndb_mgmd" := by decide

theorem classifyLine_ndbd : classifyLine "[ndbd]".toList = .header "ndbd" := by decide

theorem classifyLine_mysqld : classifyLine "[mysqld]".toList = .header "mysqld" := by decide

theorem classifyLine_api : classifyLine "[api]".toList = .header "api" := by decide

theorem plainKey_literals :
    plainKey "ConfigGenerationNumber" ∧ plainKey "Name" ∧ plainKey "NoOfReplicas" ∧
    plainKey "ServerPort" ∧ plainKey "AllowUnresolvedHostnames" ∧ plainKey "NodeId" ∧
    plainKey "Hostname" ∧ plainKey "DataDir" := by
  decide

end Literals

/-- A user's entry whose line `key=value` reads back as that pair. -/
def ReadsAsEntry (e : String × String) : Prop :=
  NoNewline (e.1 ++ "=" ++ e.2) ∧ classifyLine (e.1 ++ "=" ++ e.2).toList = .entry e.1 e.2

instance : DecidablePred ReadsAsEntry := fun _ => inferInstanceAs (Decidable (_ ∧ _))

theorem sectionsOf_append_of_eq {a b : List (List Char)} {A B : ConfigIni}
    (ha : sectionsOf a = ([], A)) (hb : sectionsOf b = ([], B)) :
    sectionsOf (a ++ b) = ([], A ++ B) := by
  rw [sectionsOf_append (by rw [hb]), ha, hb]

theorem sectionsOf_flatMap_of_eq {α : Type} (xs : List α) {f : α → List String}
    {g : α → String × List (String × String)}
    (h : ∀ x ∈ xs, sectionsOf ((f x).map String.toList) = ([], [g x])) :
    sectionsOf ((xs.flatMap f).map String.toList) = ([], xs.map g) := by
  induction xs with
  | nil => rfl
  | cons x xs ih =>
    rw [List.flatMap_cons, List.map_append, List.map_cons]
    exact sectionsOf_append_of_eq (h x (List.mem_cons_self x xs))
      (ih fun y hy => h y (List.mem_cons_of_mem x hy))

theorem sectionsOf_entryLines {es : List (String × String)} (h : ∀ e ∈ es, ReadsAsEntry e)
    (rest : List (List Char)) :
    sectionsOf ((es.map fun e => e.1 ++ "=" ++ e.2).map String.toList ++ rest) =
      (es ++ (sectionsOf rest).1, (sectionsOf rest).2) := by
  induction es with
  | nil => rfl
  | cons e es ih =>
    rw [List.map_cons, List.map_cons, List.cons_append,
      sectionsOf_cons_entry _ (h e (List.mem_cons_self e es)).2,
      ih fun x hx => h x (List.mem_cons_of_mem e hx)]
    rfl

theorem sectionsOf_systemLines (nc : NdbCluster) (v : Int32) :
    sectionsOf ((systemLines nc v).map String.toList) =
      ([], [("system", [("ConfigGenerationNumber", toString v.val), ("Name", nc.name)])]) := by
  obtain ⟨hg, hn, -⟩ := plainKey_literals
  simp only [systemLines, List.map_cons, List.map_nil]
  rw [sectionsOf_cons_skip _ (.inr classifyLine_autoGenerated),
    sectionsOf_cons_skip _ (.inl classifyLine_empty), sectionsOf_cons_header _ classifyLine_system,
    sectionsOf_cons_entry _ (classifyLine_keyValue _ hg),
    sectionsOf_cons_entry _ (classifyLine_keyValue _ hn),
    sectionsOf_cons_skip _ (.inl classifyLine_empty)]
  rfl

theorem sectionsOf_blank_line : sectionsOf ["".toList] = ([], []) := rfl

theorem sectionsOf_mgmdDefaultLines (nc : NdbCluster)
    (h : ∀ e ∈ nc.spec.managementNodeConfig.entries, ReadsAsEntry e) :
    sectionsOf ((mgmdDefaultLines nc).map String.toList) =
      ([], if nc.spec.managementNodeConfig.entries.isEmpty then []
        else [("ndb_mgmd default", nc.spec.managementNodeConfig.entries)]) := by
  by_cases hm : nc.spec.managementNodeConfig.entries = []
  · simp [mgmdDefaultLines, entryLines, hm, sectionsOf, classifyLine]
  · rw [mgmdDefaultLines, if_neg (by simpa using hm), if_neg (by simpa using hm)]
    simp only [entryLines, List.map_append, List.map_cons, List.map_nil, List.singleton_append,
      List.cons_append, List.nil_append]
    rw [sectionsOf_cons_header _ classifyLine_mgmdDefault, sectionsOf_entryLines h,
      sectionsOf_blank_line]
    simp

theorem sectionsOf_ndbdDefaultLines (nc : NdbCluster)
    (h : ∀ e ∈ nc.spec.dataNodeConfig.entries, ReadsAsEntry e) :
    sectionsOf ((ndbdDefaultLines nc).map String.toList) =
      ([], [("ndbd default", [("NoOfReplicas", toString nc.spec.redundancyLevel.val),
        ("ServerPort", "1186")] ++ nc.spec.dataNodeConfig.entries)]) := by
  obtain ⟨-, -, hr, hp, -⟩ := plainKey_literals
  simp only [ndbdDefaultLines, entryLines, List.map_append, List.map_cons, List.map_nil,
    List.cons_append, List.nil_append]
  rw [sectionsOf_cons_header _ classifyLine_ndbdDefault,
    sectionsOf_cons_entry _ (classifyLine_keyValue _ hr),
    sectionsOf_cons_skip _ (.inr classifyLine_serverPortComment),
    sectionsOf_cons_entry _ (classifyLine_keyValue _ hp), sectionsOf_entryLines h,
    sectionsOf_blank_line]
  simp

theorem sectionsOf_tcpDefaultLines :
    sectionsOf (tcpDefaultLines.map String.toList) =
      ([], [("tcp default", [("AllowUnresolvedHostnames", "1")])]) := by
  obtain ⟨-, -, -, -, ha, -⟩ := plainKey_literals
  simp only [tcpDefaultLines, List.map_cons, List.map_nil]
  rw [sectionsOf_cons_header _ classifyLine_tcpDefault,
    sectionsOf_cons_entry _ (classifyLine_keyValue _ ha), sectionsOf_blank_line]

/-! ### The sections the text reads as -/

def nodeSectionEntries (env : ConfigEnv) (nc : NdbCluster) (t : NodeType) (suffix : String)
    (idx : Nat) (nodeId : Int) : List (String × String) :=
  [("NodeId", toString nodeId), ("Hostname", hostname env nc t idx suffix),
    ("DataDir", env.dataDir ++ "/data")]

def nodeSections (env : ConfigEnv) (nc : NdbCluster) (suffix : String) (ids : NodeIds) :
    ConfigIni :=
  (ids.mgmd.enum.map fun p => ("ndb_mgmd", nodeSectionEntries env nc .mgmd suffix p.1 p.2)) ++
  (ids.ndbmtd.enum.map fun p => ("ndbd", nodeSectionEntries env nc .ndbmtd suffix p.1 p.2)) ++
  (ids.mysqld.enum.map fun p =>
    ("mysqld", [("NodeId", toString p.2), ("Hostname", hostname env nc .mysqld p.1 suffix)])) ++
  ids.api.map fun nodeId => ("api", [("NodeId", toString nodeId)])

/-- The sections of the generated config, when every user entry reads as itself. -/
def configSections (env : ConfigEnv) (nc : NdbCluster) (version : Int32) (suffix : String)
    (ids : NodeIds) : ConfigIni :=
  [("system", [("ConfigGenerationNumber", toString version.val), ("Name", nc.name)])] ++
  (if nc.spec.managementNodeConfig.entries.isEmpty then []
    else [("ndb_mgmd default", nc.spec.managementNodeConfig.entries)]) ++
  [("ndbd default", [("NoOfReplicas", toString nc.spec.redundancyLevel.val),
      ("ServerPort", "1186")] ++ nc.spec.dataNodeConfig.entries),
    ("tcp default", [("AllowUnresolvedHostnames", "1")])] ++
  nodeSections env nc suffix ids

section Sections

variable (env : ConfigEnv) (nc : NdbCluster) (suffix : String)

theorem sectionsOf_nodeSectionLines {header name : String} (t : NodeType) (idx : Nat)
    (nodeId : Int) (hh : classifyLine header.toList = .header name) :
    sectionsOf ((nodeSectionLines env nc header t suffix idx nodeId).map String.toList) =
      ([], [(name, nodeSectionEntries env nc t suffix idx nodeId)]) := by
  obtain ⟨-, -, -, -, -, hn, hh', hd⟩ := plainKey_literals
  simp only [nodeSectionLines, List.map_cons, List.map_nil]
  rw [sectionsOf_cons_header _ hh, sectionsOf_cons_entry _ (classifyLine_keyValue _ hn),
    sectionsOf_cons_entry _ (classifyLine_keyValue _ hh'),
    sectionsOf_cons_entry _ (classifyLine_keyValue _ hd), sectionsOf_blank_line]
  rfl

theorem sectionsOf_mysqldSectionLines (idx : Nat) (nodeId : Int) :
    sectionsOf ((mysqldSectionLines env nc suffix idx nodeId).map String.toList) =
      ([], [("mysqld", [("NodeId", toString nodeId),
        ("Hostname", hostname env nc .mysqld idx suffix)])]) := by
  obtain ⟨-, -, -, -, -, hn, hh, -⟩ := plainKey_literals
  simp only [mysqldSectionLines, List.map_cons, List.map_nil]
  rw [sectionsOf_cons_header _ classifyLine_mysqld,
    sectionsOf_cons_entry _ (classifyLine_keyValue _ hn),
    sectionsOf_cons_entry _ (classifyLine_keyValue _ hh), sectionsOf_blank_line]

theorem sectionsOf_apiSectionLines (nodeId : Int) :
    sectionsOf ((apiSectionLines nodeId).map String.toList) =
      ([], [("api", [("NodeId", toString nodeId)])]) := by
  obtain ⟨-, -, -, -, -, hn, -⟩ := plainKey_literals
  simp only [apiSectionLines, List.map_cons, List.map_nil]
  rw [sectionsOf_cons_header _ classifyLine_api,
    sectionsOf_cons_entry _ (classifyLine_keyValue _ hn), sectionsOf_blank_line]

theorem sectionsOf_nodeLines (ids : NodeIds) :
    sectionsOf ((nodeLines env nc suffix ids).map String.toList) =
      ([], nodeSections env nc suffix ids) := by
  simp only [nodeLines, nodeSections, List.map_append]
  have h := sectionsOf_append_of_eq (sectionsOf_append_of_eq (sectionsOf_append_of_eq
    (sectionsOf_append_of_eq (sectionsOf_append_of_eq
      (sectionsOf_flatMap_of_eq ids.mgmd.enum fun p _ =>
        sectionsOf_nodeSectionLines env nc suffix .mgmd p.1 p.2 classifyLine_mgmd)
      (sectionsOf_flatMap_of_eq ids.ndbmtd.enum fun p _ =>
        sectionsOf_nodeSectionLines env nc suffix .ndbmtd p.1 p.2 classifyLine_ndbd))
      (sectionsOf_cons_skip [] (.inr classifyLine_mysqldComment)))
      (sectionsOf_flatMap_of_eq ids.mysqld.enum fun p _ =>
        sectionsOf_mysqldSectionLines env nc suffix p.1 p.2))
      (sectionsOf_cons_skip [] (.inr classifyLine_apiComment)))
    (sectionsOf_flatMap_of_eq ids.api fun p _ => sectionsOf_apiSectionLines p)
  simpa only [List.append_nil] using h

theorem sectionsOf_configLines (version : Int32) (ids : NodeIds)
    (hm : ∀ e ∈ nc.spec.managementNodeConfig.entries, ReadsAsEntry e)
    (hd : ∀ e ∈ nc.spec.dataNodeConfig.entries, ReadsAsEntry e) :
    sectionsOf ((configLines env nc version suffix ids).map String.toList) =
      ([], configSections env nc version suffix ids) := by
  simp only [configLines, configSections, List.map_append]
  have h := sectionsOf_append_of_eq (sectionsOf_append_of_eq (sectionsOf_append_of_eq
    (sectionsOf_append_of_eq (sectionsOf_systemLines nc version) (sectionsOf_mgmdDefaultLines nc hm))
    (sectionsOf_ndbdDefaultLines nc hd)) sectionsOf_tcpDefaultLines)
    (sectionsOf_nodeLines env nc suffix ids)
  simpa only [List.append_assoc, List.cons_append, List.nil_append] using h

end Sections

/-! ### From the text to its sections -/

/-- The names that the generator pastes into its own lines hold no line break. -/
structure SingleLineNames (env : ConfigEnv) (nc : NdbCluster) : Prop where
  name : NoNewline nc.name
  «namespace» : NoNewline nc.«namespace»
  cname : ∀ c, env.kubernetesCname = some c → NoNewline c
  dataDir : NoNewline env.dataDir
  typeName : ∀ t, NoNewline (env.typeName t)
  serviceName : ∀ t, NoNewline (env.serviceName nc.name (env.typeName t))

theorem getHostnameSuffix_noNewline {ns suffix : String} {cname : Option String}
    (h : getHostnameSuffix ns cname = .ok suffix) (hns : NoNewline ns)
    (hc : ∀ c, cname = some c → NoNewline c) : NoNewline suffix := by
  cases cname with
  | none => cases h; exact hns
  | some c =>
    simp only [getHostnameSuffix] at h
    split at h
    · cases h
    · cases h
      refine (noNewline_append _ _).mpr ⟨hns, fun hm => hc c rfl ?_⟩
      exact List.mem_of_mem_drop (List.mem_of_mem_take hm)

theorem hostname_noNewline {env : ConfigEnv} {nc : NdbCluster} {suffix : String}
    (hn : SingleLineNames env nc) (hsuf : NoNewline suffix) (t : NodeType) (idx : Nat) :
    NoNewline (hostname env nc t idx suffix) := by
  simp only [hostname, noNewline_append]
  exact ⟨⟨⟨⟨⟨⟨⟨⟨hn.name, by decide⟩, hn.typeName t⟩, by decide⟩, noNewline_toString_nat idx⟩,
    by decide⟩, hn.serviceName t⟩, by decide⟩, hsuf⟩

theorem keyValue_noNewline {k v : String} (hk : NoNewline k) (hv : NoNewline v) :
    NoNewline (k ++ "=" ++ v) :=
  (noNewline_append _ _).mpr ⟨(noNewline_append _ _).mpr ⟨hk, by decide⟩, hv⟩

theorem configLines_noNewline {env : ConfigEnv} {nc : NdbCluster} {suffix : String}
    (hn : SingleLineNames env nc) (hsuf : NoNewline suffix)
    (hm : ∀ e ∈ nc.spec.managementNodeConfig.entries, NoNewline (e.1 ++ "=" ++ e.2))
    (hd : ∀ e ∈ nc.spec.dataNodeConfig.entries, NoNewline (e.1 ++ "=" ++ e.2))
    (version : Int32) (ids : NodeIds) :
    ∀ l ∈ configLines env nc version suffix ids, NoNewline l := by
  have hh := hostname_noNewline hn hsuf
  have hdir : NoNewline (env.dataDir ++ "/data") := (noNewline_append _ _).mpr ⟨hn.dataDir, by decide⟩
  have hid : ∀ n : Int, NoNewline ("NodeId" ++ "=" ++ toString n) := fun n =>
    keyValue_noNewline (by decide) (noNewline_toString_int n)
  simp only [configLines, nodeLines, List.forall_mem_append, List.forall_mem_flatMap]
  refine ⟨⟨⟨⟨?_, ?_⟩, ?_⟩, ?_⟩, ⟨⟨⟨⟨⟨?_, ?_⟩, ?_⟩, ?_⟩, ?_⟩, ?_⟩⟩
  · simp only [systemLines, List.forall_mem_cons]
    exact ⟨by decide, by decide, by decide, keyValue_noNewline (by decide) (noNewline_toString_int _),
      keyValue_noNewline (by decide) hn.name, by decide, by simp⟩
  · simp only [mgmdDefaultLines, List.forall_mem_append, List.forall_mem_cons]
    exact ⟨⟨by split_ifs <;> simp <;> decide, List.forall_mem_map.mpr hm⟩, by decide, by simp⟩
  · simp only [ndbdDefaultLines, List.forall_mem_append, List.forall_mem_cons]
    exact ⟨⟨⟨by decide, keyValue_noNewline (by decide) (noNewline_toString_int _), by decide,
      by decide, by simp⟩, List.forall_mem_map.mpr hd⟩, by decide, by simp⟩
  · simp only [tcpDefaultLines, List.forall_mem_cons]
    exact ⟨by decide, by decide, by decide, by simp⟩
  · intro p _
    simp only [nodeSectionLines, List.forall_mem_cons]
    exact ⟨by decide, hid _, keyValue_noNewline (by decide) (hh _ _),
      keyValue_noNewline (by decide) hdir, by decide, by simp⟩
  · intro p _
    simp only [nodeSectionLines, List.forall_mem_cons]
    exact ⟨by decide, hid _, keyValue_noNewline (by decide) (hh _ _),
      keyValue_noNewline (by decide) hdir, by decide, by simp⟩
  · simp only [List.forall_mem_cons]
    exact ⟨by decide, by simp⟩
  · intro p _
    simp only [mysqldSectionLines, List.forall_mem_cons]
    exact ⟨by decide, hid _, keyValue_noNewline (by decide) (hh _ _), by decide, by simp⟩
  · simp only [List.forall_mem_cons]
    exact ⟨by decide, by simp⟩
  · intro n _
    simp only [apiSectionLines, List.forall_mem_cons]
    exact ⟨by decide, hid _, by decide, by simp⟩

theorem parseString_render_configLines {env : ConfigEnv} {nc : NdbCluster} {suffix : String}
    (hn : SingleLineNames env nc) (hsuf : NoNewline suffix)
    (hm : ∀ e ∈ nc.spec.managementNodeConfig.entries, ReadsAsEntry e)
    (hd : ∀ e ∈ nc.spec.dataNodeConfig.entries, ReadsAsEntry e) (version : Int32) (ids : NodeIds) :
    parseString (render (configLines env nc version suffix ids)) =
      .ok (configSections env nc version suffix ids) := by
  rw [parseString, scanLines_render_of_lines (configLines_noNewline hn hsuf (fun e h => (hm e h).1)
    (fun e h => (hd e h).1) version ids), sectionsOf_configLines env nc suffix version ids hm hd]

theorem getConfigString_ok {env : ConfigEnv} {nc : NdbCluster} {old : Option ConfigSummary}
    {text : String} (h : getConfigString env nc old = .ok text) :
    ∃ suffix ids, getHostnameSuffix nc.«namespace» env.kubernetesCname = .ok suffix ∧
      nodeIds nc = .ok ids ∧ text = render (configLines env nc (getConfigVersion old) suffix ids) := by
  unfold getConfigString at h
  cases hs : getHostnameSuffix nc.«namespace» env.kubernetesCname with
  | error e => rw [hs] at h; cases h
  | ok suffix =>
    cases hi : nodeIds nc with
    | error e => rw [hs] at h; simp only [hi] at h; cases h
    | ok ids =>
      rw [hs] at h; simp only [hi] at h; cases h
      exact ⟨suffix, ids, rfl, rfl, rfl⟩

end NdbOperator
