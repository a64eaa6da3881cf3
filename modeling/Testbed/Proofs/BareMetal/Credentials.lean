import Testbed.BareMetal.Config
import Testbed.Proofs.Json.Alike

/-!
# Credentials in configurations

The password of a client is read as a secret, which is written as asterisks. The connection of a
rack manager stands among the settings of its cluster, and settings are written as they were given.
So a configuration that is written again tells the passwords of the rack managers, and no others.
-/
namespace Testbed.BareMetal

open Wire Json

/-- Two texts, whatever they are. -/
def BothTexts (x y : Json) : Prop := ∃ s t, x = .string s ∧ y = .string t

/-- Spellings of a connection that differ in the text of the password only. -/
def ConnectionsAlike : Json → Json → Prop :=
  ObjectsAlike (fun name x y => name = "password" ∧ BothTexts x y)

/-- Spellings of a client that differ in such texts only. -/
def ClientsAlike : Json → Json → Prop :=
  RecordsAlike ["management_port", "iso_http_url", "connection"]
    (fun name x y => name = "connection" ∧ ConnectionsAlike x y)

/-- Spellings of a cluster that differ in such texts only, those of its clients and that of its rack
manager. -/
def ClustersAlike : Json → Json → Prop :=
  ObjectsAlike (fun name x y => name = "client" ∧ ElementsAlike ClientsAlike x y ∨
    name = "connection" ∧ ConnectionsAlike x y)

/-- Spellings of a platform section that differ in such texts only. -/
def SectionsAlike : Json → Json → Prop :=
  RecordsAlike ["cluster"] (fun name x y => name = "cluster" ∧ ElementsAlike ClustersAlike x y)

/-- The passwords in the connection of a rack manager, which is one of the settings. -/
def ClusterConfig.managerPasswords (c : ClusterConfig) : List Json :=
  match c.settings.get? "connection" with
  | some (.object members) => valuesOf "password" members
  | _ => []

section Connections

theorem ConnectionsAlike.sorted {x y : Json} (alike : ConnectionsAlike x y) :
    ConnectionsAlike x.sorted y.sorted := by
  unfold ConnectionsAlike ObjectsAlike at alike
  split at alike
  · apply MembersAlike.sorted _ .nil alike
    rintro name x y ⟨password, s, t, rfl, rfl⟩
    exact ⟨password, s, t, rfl, rfl⟩
  · subst alike
    exact ObjectsAlike.refl _ _

/-- What is read of a connection. -/
theorem connection_fields {j : Json} {c : ConnectionInfo} (read : decode j = some c) :
    ∃ r, Record.ofJson? ["address", "port", "username", "password", "private_key_file"] j = some r ∧
      r.required "address" = some c.address ∧ r.defaulted "port" defaultPort = some c.port ∧
      r.required "username" = some c.username ∧ r.defaulted "password" none = some c.password ∧
      r.defaulted "private_key_file" none = some c.privateKeyFile := by
  simp only [decode, Option.bind_eq_bind, Option.bind_eq_some_iff, Option.pure_def,
    Option.some.injEq] at read
  obtain ⟨r, record, address, at_address, port, at_port, username, at_username, password,
    at_password, file, at_file, rfl⟩ := read
  exact ⟨r, record, at_address, at_port, at_username, at_password, at_file⟩

/-- What a connection is written as does not depend on the text of its password. -/
theorem connection_encode_eq (j j' : Json) (c c' : ConnectionInfo) (alike : ConnectionsAlike j j')
    (read : decode j = some c) (read' : decode j' = some c') : encode c = encode c' := by
  obtain ⟨r, record, address, port, username, password, file⟩ := connection_fields read
  obtain ⟨r', record', address', port', username', password', file'⟩ := connection_fields read'
  have fields := Record.fields_alike alike.records record record'
  have shown : c.password.map (encode : Secret → Json) = c'.password.map encode := by
    refine Record.defaulted_related (R := fun a b : Option Secret => a.map encode = b.map encode)
      (fun _ => rfl) fields ?_ password password'
    rintro x y a b ⟨-, s, t, rfl, rfl⟩ text text'
    obtain rfl := Option.some.inj text
    obtain rfl := Option.some.inj text'
    rfl
  rw [Record.required_eq fields (by simp), address', Option.some.injEq] at address
  rw [Record.defaulted_eq_of_alike fields (by simp), port', Option.some.injEq] at port
  rw [Record.required_eq fields (by simp), username', Option.some.injEq] at username
  rw [Record.defaulted_eq_of_alike fields (by simp), file', Option.some.injEq] at file
  change Json.object (Json.present [always "address" c.address, always "port" c.port,
    always "username" c.username, ("password", c.password.map encode),
    whenPresent "private_key_file" c.privateKeyFile]) = _
  rw [shown, ← address, ← port, ← username, ← file]
  rfl

end Connections

section Clients

/-- What is read of a client. -/
theorem client_fields {j : Json} {c : ClientConfig} (read : decode j = some c) :
    ∃ r, Record.ofJson? ["management_port", "iso_http_url", "connection"] j = some r ∧
      r.defaulted "management_port" none = some c.managementPort ∧
      r.defaulted "iso_http_url" "" = some c.isoHttpUrl ∧
      r.required "connection" = some c.connection := by
  simp only [decode, Option.bind_eq_bind, Option.bind_eq_some_iff, Option.pure_def,
    Option.some.injEq] at read
  obtain ⟨r, record, port, at_port, url, at_url, connection, at_connection, rfl⟩ := read
  exact ⟨r, record, at_port, at_url, at_connection⟩

theorem client_encode_eq (j j' : Json) (c c' : ClientConfig) (alike : ClientsAlike j j')
    (read : decode j = some c) (read' : decode j' = some c') : encode c = encode c' := by
  obtain ⟨r, record, port, url, connection⟩ := client_fields read
  obtain ⟨r', record', port', url', connection'⟩ := client_fields read'
  have fields := Record.fields_alike alike record record'
  have shown : encode c.connection = encode c'.connection :=
    Record.required_related (R := fun a b : ConnectionInfo => encode a = encode b) (fun _ => rfl)
      fields (fun x y a b may => connection_encode_eq x y a b may.2) connection connection'
  rw [Record.defaulted_eq_of_alike fields (by simp), port', Option.some.injEq] at port
  rw [Record.defaulted_eq_of_alike fields (by simp), url', Option.some.injEq] at url
  change Json.object (Json.present [whenPresent "management_port" c.managementPort,
    always "iso_http_url" c.isoHttpUrl, ("connection", some (encode c.connection))]) = _
  rw [shown, ← port, ← url]
  rfl

end Clients

section Clusters

/-- What is read of a cluster. -/
theorem cluster_fields {j : Json} {c : ClusterConfig} (read : decode j = some c) :
    ∃ r, openRecord? ["type", "ready_checker", "ip_getter", "client"] j = some (r, c.settings) ∧
      r.defaulted "type" "rackmanager" = some c.typeName ∧
      r.defaulted "ready_checker" none = some c.readyChecker ∧
      r.defaulted "ip_getter" none = some c.ipGetter ∧
      r.defaulted "client" [] = some c.client := by
  simp only [decode, Option.bind_eq_bind, Option.bind_eq_some_iff, Option.pure_def,
    Option.some.injEq] at read
  obtain ⟨⟨r, settings⟩, record, type, at_type, checker, at_checker, getter, at_getter, client,
    at_client, rfl⟩ := read
  exact ⟨r, record, at_type, at_checker, at_getter, at_client⟩

/-- What is read of an object differs as the object does, and so do its unknown members. -/
theorem openRecord?_alike {may may' : String → Json → Json → Prop} {names : List String}
    (unknown : ∀ name x y, name ∉ names → may name x y → may' name x y)
    (kept : ∀ name x y, may' name x y → may' name x.sorted y.sorted) {j j' : Json}
    {r r' : Record} {settings settings' : Settings} (alike : ObjectsAlike may j j')
    (read : openRecord? names j = some (r, settings))
    (read' : openRecord? names j' = some (r', settings')) :
    MembersAlike may r.fields r'.fields ∧
      MembersAlike may' settings.entries settings'.entries := by
  unfold openRecord? at read read'
  split at read
  · rename_i members
    split at read'
    · rename_i members'
      simp only [Option.bind_eq_bind, Option.bind_eq_some_iff, Option.pure_def, Option.some.injEq,
        Prod.mk.injEq] at read read'
      obtain ⟨_, record, _, rest, rfl, rfl⟩ := read
      obtain ⟨_, record', _, rest', rfl, rfl⟩ := read'
      rw [Record.ofMembers?_fields record, Record.ofMembers?_fields record']
      have others : MembersAlike may' _ _ := MembersAlike.filter alike
        (fun name => decide (name ∉ names))
        (fun name x y keeps => unknown name x y (of_decide_eq_true keeps))
      exact ⟨alike, others.decode kept rest rest'⟩
    · cases read'
  · cases read

/-- The settings of a cluster that differ in the password of the rack manager at most. -/
theorem settings_eq_iff {c c' : ClusterConfig}
    (alike : MembersAlike (fun name x y => name = "connection" ∧ ConnectionsAlike x y)
      c.settings.entries c'.settings.entries) :
    c.settings = c'.settings ↔ c.managerPasswords = c'.managerPasswords := by
  constructor
  · intro same
    rw [ClusterConfig.managerPasswords, same, ← ClusterConfig.managerPasswords]
  · intro passwords
    apply MembersAlike.dict_eq "connection" alike (fun _ _ _ may => may.1)
    have values := alike.find? "connection"
    rw [find?_eq_get?, find?_eq_get?] at values
    unfold ClusterConfig.managerPasswords at passwords
    generalize c.settings.get? "connection" = x at values passwords ⊢
    generalize c'.settings.get? "connection" = y at values passwords ⊢
    cases values with
    | none => rfl
    | some close =>
      rcases close with rfl | ⟨-, differ⟩
      · rfl
      · unfold ConnectionsAlike ObjectsAlike at differ
        split at differ
        · rw [differ.eq_of_valuesOf (fun _ _ _ may => may.1) passwords]
        · rw [differ]

/-- What a cluster is written as tells the password of its rack manager, and no other. -/
theorem cluster_encode_iff (j j' : Json) (c c' : ClusterConfig) (alike : ClustersAlike j j')
    (read : decode j = some c) (read' : decode j' = some c') :
    encode c = encode c' ↔ c.managerPasswords = c'.managerPasswords := by
  obtain ⟨r, record, type, checker, getter, client⟩ := cluster_fields read
  obtain ⟨r', record', type', checker', getter', client'⟩ := cluster_fields read'
  have unknown (name : String) (x y : Json)
      (other : name ∉ ["type", "ready_checker", "ip_getter", "client"])
      (may : name = "client" ∧ ElementsAlike ClientsAlike x y ∨
        name = "connection" ∧ ConnectionsAlike x y) :
      name = "connection" ∧ ConnectionsAlike x y := by
    rcases may with ⟨rfl, -⟩ | may
    · simp at other
    · exact may
  obtain ⟨fields, settings⟩ := openRecord?_alike unknown
    (fun _ _ _ may => ⟨may.1, may.2.sorted⟩) alike record record'
  have shown : c.client.map (encode : ClientConfig → Json) = c'.client.map encode := by
    refine Record.defaulted_related (R := fun as bs : List ClientConfig =>
      as.map encode = bs.map encode) (fun _ => rfl) fields ?_ client client'
    intro x y as bs may clients clients'
    rcases may with ⟨-, elements⟩ | ⟨named, -⟩
    · have listed : List.Forall₂ (fun a b : ClientConfig => encode a = encode b) as bs :=
        elements.decode (R := fun a b : ClientConfig => encode a = encode b) (fun _ => rfl)
          client_encode_eq clients clients'
      exact map_eq_of_forall₂ listed
    · simp at named
  rw [Record.defaulted_eq_of_alike fields (by simp), type', Option.some.injEq] at type
  rw [Record.defaulted_eq_of_alike fields (by simp), checker', Option.some.injEq] at checker
  rw [Record.defaulted_eq_of_alike fields (by simp), getter', Option.some.injEq] at getter
  have written (c : ClusterConfig) : (encode c : Json) = .object (Json.present [
      always "type" c.typeName, whenPresent "ready_checker" c.readyChecker,
      whenPresent "ip_getter" c.ipGetter, ("client", some (.array (c.client.map encode)))] ++
        c.settings.entries) := rfl
  rw [← settings_eq_iff settings, written, written, shown, type, checker, getter,
    Json.object.injEq, List.append_cancel_left_eq]
  constructor
  · exact Dict.ext
  · exact congrArg Dict.entries

end Clusters

/-- What is read of a section. -/
theorem section_fields {j : Json} {c : PlatformConfig} (read : decode j = some c) :
    ∃ r, Record.ofJson? ["cluster"] j = some r ∧ r.defaulted "cluster" [] = some c.cluster := by
  simp only [decode, Option.bind_eq_bind, Option.bind_eq_some_iff, Option.pure_def,
    Option.some.injEq] at read
  obtain ⟨r, record, cluster, at_cluster, rfl⟩ := read
  exact ⟨r, record, at_cluster⟩

theorem ofSection?_given {j : Json} (given : j ≠ .null) :
    PlatformConfig.ofSection? (some j) = decode j := by
  cases j <;> first | rfl | exact absurd rfl given

theorem clusters_encode_iff (j j' : Json) (c c' : PlatformConfig) (alike : SectionsAlike j j')
    (read : decode j = some c) (read' : decode j' = some c') :
    encode c = encode c' ↔
      c.cluster.map ClusterConfig.managerPasswords =
        c'.cluster.map ClusterConfig.managerPasswords := by
  obtain ⟨r, record, cluster⟩ := section_fields read
  obtain ⟨r', record', cluster'⟩ := section_fields read'
  have fields := Record.fields_alike alike record record'
  have written (c : PlatformConfig) :
      (encode c : Json) = .object [("cluster", .array (c.cluster.map encode))] := rfl
  have shown : c.cluster.map (encode : ClusterConfig → Json) = c'.cluster.map encode ↔
      c.cluster.map ClusterConfig.managerPasswords =
        c'.cluster.map ClusterConfig.managerPasswords := by
    refine Record.defaulted_related (R := fun as bs : List ClusterConfig =>
      as.map (encode : ClusterConfig → Json) = bs.map encode ↔
        as.map ClusterConfig.managerPasswords = bs.map ClusterConfig.managerPasswords)
      (fun _ => by simp) fields ?_ cluster cluster'
    intro x y as bs may clusters clusters'
    exact map_eq_iff_of_forall₂
      (may.2.decode (fun _ => by simp) cluster_encode_iff clusters clusters')
  rw [written, written, ← shown]
  simp

/-- Two accepted sections that differ in the texts of passwords only are written alike exactly if
the passwords of their rack managers are the same, whatever those of the clients are. -/
theorem PlatformConfig.encode_eq_iff (j j' : Json) (c c' : PlatformConfig)
    (alike : SectionsAlike j j') (read : ofSection? (some j) = some c)
    (read' : ofSection? (some j') = some c') :
    encode c = encode c' ↔
      c.cluster.map ClusterConfig.managerPasswords =
        c'.cluster.map ClusterConfig.managerPasswords := by
  by_cases same : j = j'
  · subst same
    obtain rfl := Option.some.inj (read.symm.trans read')
    simp
  · have given : j ≠ .null := by
      rintro rfl
      cases j' <;> first | exact same rfl | cases alike
    have given' : j' ≠ .null := by
      rintro rfl
      cases j <;> first | exact same rfl | cases alike
    rw [ofSection?_given given] at read
    rw [ofSection?_given given'] at read'
    exact clusters_encode_iff j j' c c' alike read read'

/-- A connection with a password. -/
def connectionWith (password : String) : Json :=
  .object [("address", .string "10.0.0.9"), ("username", .string "admin"),
    ("password", .string password)]

/-- A section of one rack with one client, given the passwords of the client and the rack manager. -/
def rackSection (client manager : String) : Json :=
  .object [("cluster", .array [.object [
    ("client", .array [.object [("connection", connectionWith client)]]),
    ("connection", connectionWith manager)]])]

theorem rackSection_alike (client manager client' manager' : String) :
    SectionsAlike (rackSection client manager) (rackSection client' manager') := by
  have connections (s t : String) : ConnectionsAlike (connectionWith s) (connectionWith t) :=
    .cons ⟨rfl, .inl rfl⟩ (.cons ⟨rfl, .inl rfl⟩ (.cons ⟨rfl, .inr ⟨rfl, s, t, rfl, rfl⟩⟩ .nil))
  have clients : ClientsAlike (.object [("connection", connectionWith client)])
      (.object [("connection", connectionWith client')]) :=
    .cons ⟨rfl, .inr ⟨rfl, connections client client'⟩⟩ .nil
  have clusters : List.Forall₂ ClustersAlike
      [.object [("client", .array [.object [("connection", connectionWith client)]]),
        ("connection", connectionWith manager)]]
      [.object [("client", .array [.object [("connection", connectionWith client')]]),
        ("connection", connectionWith manager')]] :=
    .cons (.cons ⟨rfl, .inr (.inl ⟨rfl, .cons clients .nil⟩)⟩
      (.cons ⟨rfl, .inr (.inr ⟨rfl, connections manager manager'⟩)⟩ .nil)) .nil
  exact .cons ⟨rfl, .inr ⟨rfl, clusters⟩⟩ .nil

/-- Changing the password of the client is not seen in what is written, changing that of the rack
manager is. -/
theorem encode_eq_iff_rackSection :
    ∃ c c' c'' : PlatformConfig,
      PlatformConfig.ofSection? (some (rackSection "one" "two")) = some c ∧
      PlatformConfig.ofSection? (some (rackSection "three" "two")) = some c' ∧
      PlatformConfig.ofSection? (some (rackSection "one" "four")) = some c'' ∧
      encode c = encode c' ∧ encode c ≠ encode c'' := by
  refine ⟨_, _, _, rfl, rfl, rfl, ?_, ?_⟩
  · exact (PlatformConfig.encode_eq_iff _ _ _ _ (rackSection_alike "one" "two" "three" "two") rfl
      rfl).2 rfl
  · intro same
    have passwords := (PlatformConfig.encode_eq_iff _ _ _ _
      (rackSection_alike "one" "two" "one" "four") rfl rfl).1 same
    have texts : [[Json.string "two"]] = [[Json.string "four"]] := passwords
    simp at texts

end Testbed.BareMetal
