import PodAddressing.Proofs.Json.Field
import PodAddressing.Proofs.Text.Pieces
import PodAddressing.Settings
/-!
Networks and subnets in both forms in which settings give them. Where the texts are free of the marks that divide a
line, the line and the object say the same: the same network or subnet, or the same fault.
-/

namespace PodAddressing

section Networks

structure NetworkEntry where
  name : String
  type : String
  families : List String
  deriving DecidableEq, Repr

namespace NetworkEntry

def line (n : NetworkEntry) : String :=
  n.name ++ ":" ++ n.type ++ ":" ++ String.intercalate "+" n.families

def object (n : NetworkEntry) : Json :=
  .object [("name", .text n.name), ("type", .text n.type), ("families", .list (n.families.map .text))]

/-- Whether the line of a network can be divided into its texts again. Families that are not given are others. -/
structure Divides (n : NetworkEntry) : Prop where
  name : ':' ∉ n.name.toList
  type : ':' ∉ n.type.toList
  some_family : n.families ≠ []
  families : ∀ f ∈ n.families, f ≠ "" ∧ ':' ∉ f.toList ∧ '+' ∉ f.toList

instance : DecidablePred Divides := fun n =>
  decidable_of_iff (':' ∉ n.name.toList ∧ ':' ∉ n.type.toList ∧ n.families ≠ [] ∧
    ∀ f ∈ n.families, f ≠ "" ∧ ':' ∉ f.toList ∧ '+' ∉ f.toList)
    ⟨fun ⟨name, type, some_family, families⟩ => ⟨name, type, some_family, families⟩,
      fun divides => ⟨divides.name, divides.type, divides.some_family, divides.families⟩⟩

def network (n : NetworkEntry) : Except Fault Network := do
  let families ← n.families.mapM Family.ofText
  let type ← NetworkType.ofText n.type
  pure ⟨n.name, type, families⟩

variable {n : NetworkEntry}

theorem pieces_line (divides : n.Divides) :
    Text.pieces ':' n.line = [n.name, n.type, String.intercalate "+" n.families] := by
  have families : ':' ∉ (String.intercalate "+" n.families).toList :=
    Text.mark_free_join ':' '+' (by decide) fun f given => (divides.families f given).2.1
  rw [line, Text.pieces_append_colon, Text.pieces_append_colon, Text.pieces_of_free ':' divides.name,
    Text.pieces_of_free ':' divides.type, Text.pieces_of_free ':' families]
  rfl

theorem pieces_families (divides : n.Divides) :
    Text.pieces '+' (String.intercalate "+" n.families) = n.families :=
  Text.pieces_join '+' (fun f given => (divides.families f given).2.2) divides.some_family

theorem given_families (divides : n.Divides) : String.intercalate "+" n.families ≠ "" := by
  intro empty
  have parts := pieces_families divides
  rw [empty] at parts
  have listed : "" ∈ n.families := by
    rw [← parts]
    simp [Text.pieces, Text.cut]
  exact (divides.families "" listed).1 rfl

theorem of_line (divides : n.Divides) : Specs.network n.line = n.network := by
  have given := given_families divides
  have read := pieces_families divides
  rw [Specs.network, pieces_line divides]
  generalize String.intercalate "+" n.families = families at given read
  dsimp only
  split
  case h_1 none_given => cases none_given
  case h_2 nothing =>
    cases nothing
    exact absurd rfl given
  case h_3 parts =>
    cases parts
    rw [read]
    rfl

theorem of_object (some_family : n.families ≠ []) : Settings.networkOf n.object = n.network := by
  have given : (Json.list (n.families.map .text)).holds = true := by
    simpa [Json.holds] using some_family
  have read : (n.families.map Json.text).mapM Family.ofJson = n.families.mapM Family.ofText := by
    rw [List.mapM_map]
    rfl
  have families : Json.fieldOr "families" .null n.object = .ok (.list (n.families.map .text)) := rfl
  rw [Settings.networkOf, families]
  simp only [bind, Except.bind, given, ↓reduceIte, Json.items, read]
  rfl

theorem bad_of_network {fault : Fault} (failed : n.network = .error fault) : ∃ value, fault = .bad value := by
  have kept : ¬ Derails n.network := by
    simp only [network, derails_bind_iff, Family.not_derails_ofTexts, NetworkType.not_derails_ofText, not_derails_pure,
      and_false, exists_false, or_self, not_false_eq_true]
  rw [failed, derails_error_iff, Bool.not_eq_false] at kept
  exact Fault.isBad_iff.mp kept

end NetworkEntry
end Networks

section Subnets

structure SubnetEntry where
  name : String
  network : String
  cidr : String
  gateway : Option String
  deriving DecidableEq, Repr

namespace SubnetEntry

def line (s : SubnetEntry) : String :=
  s.name ++ ":" ++ s.network ++ ":" ++ s.cidr ++ s.gateway.elim "" ("@" ++ ·)

def object (s : SubnetEntry) : Json :=
  .object ([("name", .text s.name), ("network", .text s.network), ("cidr", .text s.cidr)] ++
    s.gateway.toList.map fun gateway => ("gateway", .text gateway))

-- The cidr and the gateway may have colons, and the gateway may have further marks of any kind.
structure Divides (s : SubnetEntry) : Prop where
  name : ':' ∉ s.name.toList
  network : ':' ∉ s.network.toList
  cidr : '@' ∉ s.cidr.toList
  gateway : s.gateway ≠ some ""

instance : DecidablePred Divides := fun s =>
  decidable_of_iff (':' ∉ s.name.toList ∧ ':' ∉ s.network.toList ∧ '@' ∉ s.cidr.toList ∧ s.gateway ≠ some "")
    ⟨fun ⟨name, network, cidr, gateway⟩ => ⟨name, network, cidr, gateway⟩,
      fun divides => ⟨divides.name, divides.network, divides.cidr, divides.gateway⟩⟩

def subnet (s : SubnetEntry) : Subnet :=
  { name := s.name, network := s.network, cidr := s.cidr, gateway := s.gateway }

variable {s : SubnetEntry}

theorem cidrAndGateway_line (divides : s.Divides) :
    Specs.cidrAndGateway (s.cidr.toList ++ (s.gateway.elim "" ("@" ++ ·)).toList) = (s.cidr, s.gateway) := by
  rw [Specs.cidrAndGateway]
  cases given : s.gateway with
  | none => simp [Text.cutFirst_of_free _ divides.cidr]
  | some gateway =>
      have some_text : gateway.toList ≠ [] := by
        intro nothing
        apply divides.gateway
        rw [given, String.toList_eq_nil_iff.mp nothing]
      have parts : (("@" : String) ++ gateway).toList = '@' :: gateway.toList := by simp
      have kept : (some gateway.toList).filter (!·.isEmpty) = some gateway.toList := by simp [some_text]
      rw [Option.elim_some, parts, Text.cutFirst_append_mark _ divides.cidr]
      simp only [kept, Option.map_some, String.ofList_toList]

theorem of_line (divides : s.Divides) : Specs.subnet s.line = .ok s.subnet := by
  have parts : s.line.toList = s.name.toList ++ ':' :: (s.network.toList ++ ':' ::
      (s.cidr.toList ++ (s.gateway.elim "" ("@" ++ ·)).toList)) := by
    simp [line, String.toList_append]
  rw [Specs.subnet, parts, Text.cutFirst_append_mark _ divides.name]
  simp only [Option.map_some, Text.cutFirst_append_mark _ divides.network, cidrAndGateway_line divides,
    String.ofList_toList]
  rfl

theorem of_object (divides : s.Divides) : Settings.subnetOf s.object = .ok s.subnet := by
  obtain ⟨name, network, cidr, gateway⟩ := s
  cases gateway with
  | none => rfl
  | some gateway =>
      have holds : (Json.text gateway).holds = true := by
        have given : gateway ≠ "" := fun nothing => divides.gateway (by rw [nothing])
        simpa [Json.holds] using given
      have text : Json.textField? "gateway" (SubnetEntry.object ⟨name, network, cidr, some gateway⟩) =
          .ok (some gateway) := by
        change Except.ok (((some (Json.text gateway)).filter Json.holds).map Json.describe) = _
        rw [Option.filter_some_pos holds]
        rfl
      rw [Settings.subnetOf, text]
      rfl

end SubnetEntry
end Subnets

namespace Settings

/-- Lines and objects that give the same texts give the same networks and subnets, and fail with the same fault. -/
theorem lines_agree_with_objects {networks : List NetworkEntry} {subnets : List SubnetEntry}
    (divides : ∀ n ∈ networks, n.Divides) (divides' : ∀ s ∈ subnets, s.Divides) :
    (Specs.networks (networks.map (·.line)) = (networks.map (·.object)).mapM networkOf ∧
      (networks.map (·.object)).mapM networkOf = networks.mapM (·.network)) ∧
    (Specs.subnets (subnets.map (·.line)) = (subnets.map (·.object)).mapM subnetOf ∧
      (subnets.map (·.object)).mapM subnetOf = .ok (subnets.map (·.subnet))) ∧
    ∀ fault, networks.mapM (·.network) = .error fault → ∃ value, fault = .bad value := by
  have networkLines : Specs.networks (networks.map (·.line)) = networks.mapM (·.network) := by
    rw [Specs.networks, List.mapM_map]
    exact mapM_congr fun n listed => NetworkEntry.of_line (divides n listed)
  have networkObjects : (networks.map (·.object)).mapM networkOf = networks.mapM (·.network) := by
    rw [List.mapM_map]
    exact mapM_congr fun n listed => NetworkEntry.of_object (divides n listed).some_family
  have read : subnets.mapM (fun s => (.ok s.subnet : Except Fault Subnet)) = .ok (subnets.map (·.subnet)) :=
    List.mapM_pure
  have subnetLines : Specs.subnets (subnets.map (·.line)) = .ok (subnets.map (·.subnet)) := by
    rw [Specs.subnets, List.mapM_map, ← read]
    exact mapM_congr fun s listed => SubnetEntry.of_line (divides' s listed)
  have subnetObjects : (subnets.map (·.object)).mapM subnetOf = .ok (subnets.map (·.subnet)) := by
    rw [List.mapM_map, ← read]
    exact mapM_congr fun s listed => SubnetEntry.of_object (divides' s listed)
  refine ⟨⟨networkLines.trans networkObjects.symm, networkObjects⟩,
    ⟨subnetLines.trans subnetObjects.symm, subnetObjects⟩, fun fault failed => ?_⟩
  obtain ⟨n, _, failed⟩ := mem_of_mapM_error failed
  exact NetworkEntry.bad_of_network failed

def bridgedNetworks : List NetworkEntry :=
  [⟨"pods", "underlay", ["IPv4", "ipv6"]⟩, ⟨"links", "Bridge", ["IPv4"]⟩]

def bothSubnets : List SubnetEntry :=
  [⟨"four", "pods", "10.14.100.0/24", some "10.14.100.1"⟩, ⟨"six", "pods", "fd00:14::/64", some "fd00:14::1"⟩,
    ⟨"bare", "pods", "fd00:15::/64", none⟩]

theorem bridged_lines_agree :
    Specs.networks ["pods:underlay:IPv4+ipv6", "links:Bridge:IPv4"] =
        (bridgedNetworks.map (·.object)).mapM networkOf ∧
      (bridgedNetworks.map (·.object)).mapM networkOf = .error (.bad (.networkType "Bridge")) ∧
      Specs.subnets ["four:pods:10.14.100.0/24@10.14.100.1", "six:pods:fd00:14::/64@fd00:14::1",
          "bare:pods:fd00:15::/64"] = (bothSubnets.map (·.object)).mapM subnetOf ∧
      (bothSubnets.map (·.object)).mapM subnetOf = .ok [
        { name := "four", network := "pods", cidr := "10.14.100.0/24", gateway := some "10.14.100.1" },
        { name := "six", network := "pods", cidr := "fd00:14::/64", gateway := some "fd00:14::1" },
        { name := "bare", network := "pods", cidr := "fd00:15::/64" }] := by
  have divides : ∀ n ∈ bridgedNetworks, n.Divides := by decide
  have divides' : ∀ s ∈ bothSubnets, s.Divides := by decide
  obtain ⟨⟨networkLines, networkObjects⟩, ⟨subnetLines, subnetObjects⟩, _⟩ :=
    lines_agree_with_objects divides divides'
  have refused : bridgedNetworks.mapM (·.network) = .error (.bad (.networkType "Bridge")) := by
    rfl
  exact ⟨networkLines, networkObjects.trans refused, subnetLines, subnetObjects⟩

end Settings
end PodAddressing
