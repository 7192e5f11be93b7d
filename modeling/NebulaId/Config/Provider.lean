import NebulaId.Config.Adapter
import NebulaId.Store.Paths

/-!
# The provider of a configuration (`infrastructure/config_provider.rs`)

The sources of a configuration are merged to a tree of maps. `flatten` puts its values into one map,
each under the keys on the way to it with dots between them.

* `flatten_eq_foldl`: the values are put in one after the other, in the order of the tree.
* `getRaw_eq_get?`: when no key is empty or has a dot, the provider finds under a text what the tree
  has at the end of the path that the text is cut into.
* `kept_iff_agree`: what happens to keys with dots.
* `tree_reaches_config`: so an integer of the tree gets to its field, in whatever order the maps
  are.
-/

namespace NebulaId

open Store

/-- A map, or some other `ConfigValue` with its annotations. -/
abbrev AnnotatedValue (β : Type) := MapTree String β

/-- A key that is no path of several keys. -/
def PlainKey (key : String) : Prop := key ≠ "" ∧ '.' ∉ key.toList

/-- The path that a text is: what is between its dots. -/
def segments (key : String) : List String := (key.toList.splitOn '.').map String.ofList

/-- `new_key`; the first parameter is `prefix`. -/
def newKey (pfx key : String) : String := if pfx.isEmpty then key else pfx ++ "." ++ key

/-- The key of the values at the end of a path. -/
def dotted (path : List String) : String := path.foldl newKey ""

structure ConfigProviderImpl (β : Type) where
  values : AList fun _ : String => β

namespace ConfigProviderImpl

variable {β : Type}

mutual

def flatten : AnnotatedValue β → String → (AList fun _ : String => β) → AList fun _ : String => β
  | .leaf value, pfx, result => if pfx.isEmpty then result else result.insert pfx value
  | .node map, pfx, result => flattenMap map pfx result

def flattenMap : List (String × AnnotatedValue β) → String → (AList fun _ : String => β) →
    AList fun _ : String => β
  | [], _, result => result
  | (key, val) :: map, pfx, result => flattenMap map pfx (flatten val (newKey pfx key) result)

end

def fromAnnotated (value : AnnotatedValue β) : ConfigProviderImpl β := ⟨flatten value "" ∅⟩

def getRaw (p : ConfigProviderImpl β) (key : String) : Option β := p.values.lookup key

def keys (p : ConfigProviderImpl β) : List String := p.values.keys

end ConfigProviderImpl

/-- How a value is read as a text, a number or a switch. -/
structure ValueReaders (β : Type) where
  asString : β → Option String
  asInt : β → Option Int64
  asBool : β → Option Bool
  asFloat : β → Option F64

/-- The getters of a provider read what `get_raw` finds. -/
def ConfigProviderImpl.toProvider {β : Type} (r : ValueReaders β) (p : ConfigProviderImpl β) :
    ConfigProvider where
  getString key := (p.getRaw key).bind r.asString
  getInt key := (p.getRaw key).bind r.asInt
  getBool key := (p.getRaw key).bind r.asBool
  getFloat key := (p.getRaw key).bind r.asFloat

/-! ## Dotted keys -/

section Dotted

variable {pfx key : String} {path : List String}

theorem foldl_newKey (hpfx : pfx ≠ "") (hpath : ∀ key ∈ path, key ≠ "") :
    path.foldl newKey pfx = String.intercalate "." (pfx :: path) := by
  induction path generalizing pfx with
  | nil => rw [List.foldl_nil, String.intercalate_singleton]
  | cons key path ih =>
    obtain ⟨hkey, hrest⟩ := List.forall_mem_cons.mp hpath
    have hnew : newKey pfx key = pfx ++ "." ++ key := by
      rw [newKey, if_neg]
      rwa [String.isEmpty_iff]
    have hne : newKey pfx key ≠ "" := by
      rw [hnew, Ne, String.append_eq_empty_iff]
      exact fun h => hkey h.2
    rw [List.foldl_cons, ih hne hrest, hnew]
    cases path with
    | nil => rw [String.intercalate_singleton, String.intercalate_cons_cons,
        String.intercalate_singleton]
    | cons key' path =>
      rw [String.intercalate_cons_cons, String.intercalate_cons_cons,
        String.intercalate_cons_cons]
      simp only [String.append_assoc]

theorem dotted_eq (hpath : ∀ key ∈ path, key ≠ "") : dotted path = String.intercalate "." path := by
  cases path with
  | nil => rfl
  | cons key path =>
    obtain ⟨hkey, hrest⟩ := List.forall_mem_cons.mp hpath
    rw [dotted, List.foldl_cons]
    exact foldl_newKey hkey hrest

theorem segments_ne_nil (key : String) : segments key ≠ [] := by
  rw [segments, Ne, List.map_eq_nil_iff]
  exact List.splitOn_ne_nil '.' key.toList

/-- A path of plain keys is read off its text. -/
theorem segments_dotted (hne : path ≠ []) (hpath : ∀ key ∈ path, PlainKey key) :
    segments (dotted path) = path := by
  rw [dotted_eq fun key hkey => (hpath key hkey).1, segments, String.toList_intercalate]
  have hdots : ∀ l ∈ path.map String.toList, '.' ∉ l := by
    intro l hl
    obtain ⟨key, hkey, rfl⟩ := List.mem_map.mp hl
    exact (hpath key hkey).2
  have hsplit := List.splitOn_intercalate '.' hdots (by simpa using hne)
  have hdot : ".".toList = ['.'] := rfl
  rw [hdot, hsplit, List.map_map]
  simp

theorem dotted_segments (hpath : ∀ segment ∈ segments key, segment ≠ "") :
    dotted (segments key) = key := by
  rw [dotted_eq hpath]
  apply String.toList_injective
  rw [String.toList_intercalate, segments, List.map_map]
  have hid : String.toList ∘ String.ofList = id := funext fun l => String.toList_ofList
  have hdot : ".".toList = ['.'] := rfl
  rw [hid, List.map_id, hdot, List.intercalate_splitOn]

end Dotted

namespace ConfigProviderImpl

variable {β : Type} {tree : AnnotatedValue β} {map : List (String × AnnotatedValue β)}
  {pfx key : String} {result : AList fun _ : String => β}

/-! ## The values of the tree -/

/-- One of them: it has a key unless it is the whole tree or stands under empty keys only. -/
def put (pfx : String) (result : AList fun _ : String => β) (l : List String × β) :
    AList fun _ : String => β :=
  if (l.1.foldl newKey pfx).isEmpty then result else result.insert (l.1.foldl newKey pfx) l.2

mutual

theorem flatten_eq_foldl : ∀ (tree : AnnotatedValue β) (pfx : String)
    (result : AList fun _ : String => β),
    flatten tree pfx result = tree.leaves.foldl (put pfx) result
  | .leaf value, pfx, result => by
    rw [flatten, MapTree.leaves, List.foldl_cons, List.foldl_nil]
    rfl
  | .node map, pfx, result => by
    rw [flatten, MapTree.leaves]
    exact flattenMap_eq_foldl map pfx result

theorem flattenMap_eq_foldl : ∀ (map : List (String × AnnotatedValue β)) (pfx : String)
    (result : AList fun _ : String => β),
    flattenMap map pfx result = (MapTree.leavesOf map).foldl (put pfx) result
  | [], pfx, result => by rw [flattenMap, MapTree.leavesOf, List.foldl_nil]
  | (key, val) :: map, pfx, result => by
    rw [flattenMap, MapTree.leavesOf, List.foldl_append, List.foldl_map,
      flattenMap_eq_foldl map pfx, flatten_eq_foldl val]
    rfl

end

/-- Without empty keys every value of a map has a key. -/
theorem fromAnnotated_values (hkeys : (MapTree.node map).Keys (fun key => key ≠ "")) :
    (fromAnnotated (.node map)).values = (MapTree.leaves (.node map)).foldl
      (fun m l => m.insert (dotted l.1) l.2) ∅ := by
  rw [fromAnnotated, flatten_eq_foldl]
  apply List.foldl_ext
  intro result l hl
  have hpath := MapTree.forall_mem_path hkeys hl
  obtain ⟨key, tree, -, path, -, heq⟩ := MapTree.mem_leaves_node.mp hl
  have hne : dotted l.1 ≠ "" := by
    rw [dotted_eq hpath]
    intro hempty
    have hlist := congrArg String.toList hempty
    rw [heq] at hlist hpath
    have hkey := hpath key List.mem_cons_self
    rw [String.toList_intercalate] at hlist
    cases path with
    | nil => exact hkey (String.toList_injective (by simpa using hlist))
    | cons key' path => simp at hlist
  rw [put, if_neg]
  · rfl
  · rw [String.isEmpty_iff]
    exact hne

/-- The provider finds what the tree has. -/
theorem getRaw_eq_get? (hdistinct : tree.Distinct) (hkeys : tree.Keys PlainKey) (key : String) :
    (fromAnnotated tree).getRaw key = tree.get? (segments key) := by
  cases tree with
  | leaf value =>
    obtain ⟨first, rest, hsegments⟩ := List.exists_cons_of_ne_nil (segments_ne_nil key)
    rw [hsegments]
    simp [getRaw, fromAnnotated, flatten, MapTree.get?]
  | node map =>
    have hplain : ∀ l ∈ (MapTree.node map).leaves, l.1 ≠ [] ∧ ∀ key ∈ l.1, PlainKey key := by
      intro l hl
      obtain ⟨key, tree, -, path, -, heq⟩ := MapTree.mem_leaves_node.mp hl
      exact ⟨by simp [heq], MapTree.forall_mem_path hkeys hl⟩
    have hname : ∀ l ∈ (MapTree.node map).leaves, dotted l.1 = key → l.1 = segments key := by
      intro l hl hkey
      rw [← hkey, segments_dotted (hplain l hl).1 (hplain l hl).2]
    rw [getRaw, fromAnnotated_values (hkeys.imp fun _ h => h.1)]
    cases hget : (MapTree.node map).get? (segments key) with
    | none =>
      apply lookup_foldl_insert_of_ne
      intro l hl hkey
      have hmem : (segments key, l.2) ∈ (MapTree.node map).leaves := by
        rwa [← hname l hl hkey]
      rw [MapTree.mem_leaves_iff hdistinct, hget] at hmem
      cases hmem
    | some value =>
      have hmem := (MapTree.mem_leaves_iff hdistinct).mpr hget
      apply lookup_foldl_insert
      · intro l hl hkey
        have hl' : (segments key, l.2) ∈ (MapTree.node map).leaves := by
          rwa [← hname l hl hkey]
        rw [MapTree.mem_leaves_iff hdistinct, hget] at hl'
        exact (Option.some.inj hl').symm
      · exact ⟨_, hmem, dotted_segments fun segment hsegment => ((hplain _ hmem).2 _ hsegment).1⟩

/-- Keys may have dots. Then the provider has every value exactly if those with the same key are
the same. -/
theorem kept_iff_agree (hkeys : (MapTree.node map).Keys (fun key => key ≠ "")) :
    (∀ l ∈ (MapTree.node map).leaves,
      (fromAnnotated (.node map)).getRaw (dotted l.1) = some l.2) ↔
    ∀ l ∈ (MapTree.node map).leaves, ∀ l' ∈ (MapTree.node map).leaves,
      dotted l.1 = dotted l'.1 → l.2 = l'.2 := by
  constructor
  · intro hkept l hl l' hl' hkey
    have hsame := hkept l hl
    rw [hkey, hkept l' hl'] at hsame
    exact (Option.some.inj hsame).symm
  · intro hagree l hl
    rw [getRaw, fromAnnotated_values hkeys]
    apply lookup_foldl_insert
    · exact fun l' hl' hkey => hagree l' hl' l hl hkey
    · exact ⟨l, hl, rfl⟩

-- a key with a dot takes the place of a value that has the same key
example : (fromAnnotated (.node [("a", .node [("b", .leaf 1)]), ("a.b", .leaf 2)])).getRaw "a.b" =
    some 2 := by decide

/-! ## From the tree to the fields -/

/-- **The configuration is what the tree says.** No key is empty or has a dot. Then the provider
finds under every text what the tree has at the end of its path, no key of the provider is a key
of anything else, and every integer that the getters read gets from the tree to its field. -/
theorem tree_reaches_config (debug : Bool) (env : Env) (rest : DatabaseSection)
    (r : ValueReaders β) (hdistinct : tree.Distinct) (hkeys : tree.Keys PlainKey) :
    (∀ key, (fromAnnotated tree).getRaw key = tree.get? (segments key)) ∧
    (∀ key, key ∈ (fromAnnotated tree).keys ↔
      ∃ l ∈ tree.leaves, l.1 ≠ [] ∧ key = String.intercalate "." l.1) ∧
    ∀ s ∈ ConfigAdapter.intKeys, ∀ value v, tree.get? (segments s.key) = some value →
      r.asInt value = some v →
      (s.field (ConfigAdapter.getConfig debug env rest ((fromAnnotated tree).toProvider r)) : ℤ) =
        v.toInt % 2 ^ s.bits := by
  have hraw := getRaw_eq_get? hdistinct hkeys
  refine ⟨hraw, fun key => ?_, fun s hs value v hvalue hv => ?_⟩
  · have hmem : key ∈ (fromAnnotated tree).keys ↔ ((fromAnnotated tree).getRaw key).isSome := by
      rw [getRaw, AList.lookup_isSome]
      rfl
    rw [hmem, hraw, Option.isSome_iff_exists]
    constructor
    · rintro ⟨value, hvalue⟩
      have hl := (MapTree.mem_leaves_iff hdistinct).mpr hvalue
      have hpath := MapTree.forall_mem_path hkeys hl
      refine ⟨_, hl, segments_ne_nil key, ?_⟩
      rw [← dotted_eq fun segment hsegment => (hpath segment hsegment).1,
        dotted_segments fun segment hsegment => (hpath segment hsegment).1]
    · rintro ⟨l, hl, hne, rfl⟩
      have hpath := MapTree.forall_mem_path hkeys hl
      rw [← dotted_eq fun segment hsegment => (hpath segment hsegment).1, segments_dotted hne hpath]
      exact ⟨l.2, (MapTree.mem_leaves_iff hdistinct).mp hl⟩
  · apply ConfigAdapter.field_narrows s hs
    simp [toProvider, hraw, hvalue, hv]

/-- A section of a file, with a port. -/
def portTree : AnnotatedValue Int64 := .node [("app", .node [("http_port", .leaf 73616)])]

theorem tree_reaches_config_port :
    ((ConfigAdapter.getConfig false (fun _ => none) .inMemory ((fromAnnotated portTree).toProvider
      ⟨fun _ => none, some, fun _ => none, fun _ => none⟩)).app.httpPort.toNat : ℤ) = 8080 :=
  (tree_reaches_config false (fun _ => none) .inMemory _
    (by simp [portTree, MapTree.Distinct, MapTree.DistinctIn])
    (by simp [portTree, MapTree.Keys, MapTree.KeysIn, PlainKey])).2.2 _ List.mem_cons_self 73616
    73616 rfl rfl

end ConfigProviderImpl

end NebulaId
