import Headroom.Proofs.Wire.Basic
import Headroom.Proofs.Quantity.OfAmount
import Headroom.Wire.Report
import Headroom.Wire.Workload
/-!
# The wire format loses nothing

What is written of a value is read back as that value. For quantities this is so if they come from a
text or an amount, and for numbers of things if they fit into 64 bits; nothing else can be read. All
other types come back whatever their values are, malformed ones included.
-/

namespace Headroom

open Wire (decode? encode)

/-! ## Names -/

instance : LawfulWire TaintEffect where
  decode?_encode effect := by cases effect <;> rfl

instance : PresentWire TaintEffect where
  encode_ne_null := nofun

instance : LawfulWire TolerationOperator where
  decode?_encode operator := by cases operator <;> rfl

instance : LawfulWire Operator where
  decode?_encode operator := by cases operator <;> rfl

instance : LawfulWire AffinityKind where
  decode?_encode kind := by cases kind <;> rfl

instance : LawfulWire TopologyMode where
  decode?_encode mode := by cases mode <;> rfl

theorem ResourceName.toOption_ofString? (name : ResourceName) :
    (ofString? name.text).toOption = some name := by
  rw [ofString?, dif_pos name.valid]
  rfl

instance : LawfulWire ResourceName where
  decode?_encode := ResourceName.toOption_ofString?

instance : LawfulWire ResourceList where
  decode?_encode list := by
    refine Wire.decodeDict?_encodeDict (fun name => ?_) fun entry _ =>
      LawfulWire.decode?_encode entry.2
    show (ResourceName.ofString? (String.ofList name.text.toList)).toOption = some name
    rw [String.ofList_toList, name.toOption_ofString?]

/-! ## Records -/

instance : LawfulWire Taint where
  decode?_encode taint := by
    show Taint.ofJson? taint.toJson = some taint
    simp [Taint.ofJson?, Taint.toJson, List.lookup_cons]

instance : LawfulWire Toleration where
  decode?_encode toleration := by
    show Toleration.ofJson? toleration.toJson = some toleration
    simp [Toleration.ofJson?, Toleration.toJson, List.lookup_cons]

instance : LawfulWire Requirement where
  decode?_encode requirement := by
    show Requirement.ofJson? requirement.toJson = some requirement
    simp [Requirement.ofJson?, Requirement.toJson, List.lookup_cons]

instance : LawfulWire NodeSelectorTerm where
  decode?_encode term := by
    show NodeSelectorTerm.ofJson? term.toJson = some term
    simp [NodeSelectorTerm.ofJson?, NodeSelectorTerm.toJson]

instance : PresentWire NodeSelectorTerm where
  encode_ne_null := nofun

instance : LawfulWire LabelSelector where
  decode?_encode selector := by
    show LabelSelector.ofJson? selector.toJson = some selector
    simp [LabelSelector.ofJson?, LabelSelector.toJson, List.lookup_cons]

instance : LawfulWire AffinityTerm where
  decode?_encode term := by
    show AffinityTerm.ofJson? term.toJson = some term
    simp [AffinityTerm.ofJson?, AffinityTerm.toJson, List.lookup_cons]

instance : LawfulWire Workload where
  decode?_encode workload := by
    show Workload.ofJson? workload.toJson = some workload
    simp [Workload.ofJson?, Workload.toJson, List.lookup_cons]

instance : LawfulWire Profile where
  decode?_encode profile := by
    show Profile.ofJson? profile.toJson = some profile
    simp [Profile.ofJson?, Profile.toJson, List.lookup_cons]

instance : LawfulWire Config where
  decode?_encode config := by
    show Config.ofJson? config.toJson = some config
    simp [Config.ofJson?, Config.toJson, List.lookup_cons]

/-! ## Quantities -/

/-- The quantities that there are: each comes from a text or from an amount. -/
inductive Quantity.Obtained : Quantity → Prop
  | parsed {text : String} {quantity : Quantity} (parsed : parse text = .ok quantity) :
      Obtained quantity
  | ofUnits (amount : Amount) : Obtained (ofUnits amount)
  | ofMillis (amount : Amount) : Obtained (ofMillis amount)

/-- The text of a quantity is read as that quantity. -/
theorem Quantity.Obtained.parse_text {quantity : Quantity} (obtained : quantity.Obtained) :
    parse quantity.text = .ok quantity := by
  cases obtained with
  | parsed parsed => rwa [text_eq parsed]
  | ofUnits amount => exact parse_text_ofUnits amount
  | ofMillis amount => exact parse_text_ofMillis amount

theorem Quantity.decode?_encode {quantity : Quantity} (obtained : quantity.Obtained) :
    decode? (encode quantity) = some quantity := by
  show (parse quantity.text).toOption = some quantity
  rw [obtained.parse_text]
  rfl

theorem Quantity.obtained_of_decode? {json : Json} {quantity : Quantity}
    (read : decode? json = some quantity) : quantity.Obtained := by
  obtain ⟨text, -, parsed⟩ := Option.bind_eq_some_iff.mp read
  cases outcome : parse text with
  | ok found =>
      rw [outcome] at parsed
      cases parsed
      exact .parsed outcome
  | error fault =>
      rw [outcome] at parsed
      contradiction

/-! ## Reports -/

/-- Whether a number of things fits on the wire. -/
abbrev CountFits (n : Nat) : Prop := n ≤ 18446744073709551615

namespace Verdict

/-- Whether the numbers of a verdict fit on the wire. -/
def Fits : Verdict → Prop
  | feasible => True
  | infeasible requested schedulable => CountFits requested ∧ CountFits schedulable

end Verdict

/-- Whether the numbers in a report fit on the wire. -/
structure Report.Fits (report : Report) : Prop where
  verdict : report.verdict.Fits
  assignments : ∀ placement ∈ report.assignments, CountFits placement.index
  firstUnplaced : ∀ index ∈ report.firstUnplaced, CountFits index

theorem decode?_encode_count {n : Nat} (fits : CountFits n) : decode? (encode n) = some n :=
  Wire.decode?_nat_eq_some_iff.mpr ⟨rfl, fits⟩

theorem Assignment.decode?_encode {placement : Assignment} (fits : CountFits placement.index) :
    decode? (encode placement) = some placement := by
  show ofJson? placement.toJson = some placement
  simp [ofJson?, toJson, List.lookup_cons, decode?_encode_count fits]

namespace Verdict

/-- The tag of a verdict. -/
def tag : Verdict → VerdictTag
  | feasible => .feasible
  | infeasible _ _ => .infeasible

theorem decode?_tag (verdict : Verdict) :
    VerdictTag.decode? (.string verdict.tag.text) = some verdict.tag := by
  cases verdict.tag <;> rfl

theorem decodeWide?_tag (verdict : Verdict) :
    VerdictTag.decodeWide? (.string verdict.tag.text) = some verdict.tag :=
  verdict.decode?_tag

theorem lookup_tag (verdict : Verdict) (others : List (String × Json)) :
    (verdict.members ++ others).lookup "verdict" = some (.string verdict.tag.text) := by
  cases verdict <;> simp [members, tag]

/-- A verdict has no members under other names. -/
theorem lookup_append (verdict : Verdict) {name : String}
    (apart : name ∉ ["verdict", "requested", "schedulable"]) (others : List (String × Json)) :
    (verdict.members ++ others).lookup name = others.lookup name := by
  simp only [List.mem_cons, List.not_mem_nil, or_false, not_or, ← beq_eq_false_iff_ne] at apart
  cases verdict with
  | feasible => simp [members, List.lookup_cons, apart.1]
  | infeasible requested schedulable => simp [members, List.lookup_cons, apart]

/-- The members of a verdict stand for it whatever follows them. -/
theorem ofMembers?_append {verdict : Verdict} (fits : verdict.Fits)
    (others : List (String × Json)) :
    ofMembers? verdict.tag (verdict.members ++ others) = some verdict := by
  cases verdict with
  | feasible => rfl
  | infeasible requested schedulable =>
      have batch : (encode requested).nat? = some requested := decode?_encode_count fits.1
      have placed : (encode schedulable).nat? = some schedulable := decode?_encode_count fits.2
      simp [ofMembers?, tag, members, List.lookup_cons, batch, placed]

theorem decode?_encode {verdict : Verdict} (fits : verdict.Fits) :
    decode? (encode verdict) = some verdict := by
  have lookup := verdict.lookup_tag []
  have numbers := ofMembers?_append fits []
  rw [List.append_nil] at lookup numbers
  show ofJson? (.object verdict.members) = some verdict
  simp [ofJson?, lookup, decode?_tag, numbers]

end Verdict

theorem Report.decode?_encode {report : Report} (fits : report.Fits) :
    decode? (encode report) = some report := by
  obtain ⟨verdict, assignments, firstUnplaced⟩ := report
  have placements : decode? (encode assignments) = some assignments :=
    Wire.decode?_encode_list fun placement member =>
      Assignment.decode?_encode (fits.assignments placement member)
  have first : decode? (encode firstUnplaced) = some firstUnplaced :=
    Wire.decode?_encode_option fun index held =>
      ⟨nofun, decode?_encode_count (fits.firstUnplaced index held)⟩
  have marked : ((firstUnplaced.toList.map fun index =>
      ("first_unplaced", encode index)).lookup "first_unplaced").elim (some none) decode? =
        some firstUnplaced := by
    cases firstUnplaced with
    | none => rfl
    | some index => exact first
  show ofJson? (toJson { verdict, assignments, firstUnplaced }) = _
  -- the verdict stands in front, and its names are none of those behind it
  simp [ofJson?, toJson, Json.object?, Verdict.lookup_tag, Verdict.decodeWide?_tag,
    Verdict.lookup_append, Verdict.ofMembers?_append fits.verdict, List.lookup_cons, placements,
    marked]

/-! ## What can be read -/

theorem Wire.exists_decode?_of_required {α : Type} [Wire α] {parts : Wire.Parts} {position : Nat}
    {name : String} {value : α} (read : parts.required position name = some value) :
    ∃ json : Json, decode? json = some value := by
  obtain ⟨json, -, found⟩ := Option.bind_eq_some_iff.mp read
  exact ⟨json, found⟩

theorem Wire.exists_decode?_of_optional {α : Type} [Wire α] {members : List (String × Json)}
    {position : Nat} {name : String} {value : Option α}
    (read : (Wire.Parts.named members).optional position name = some value) {held : α}
    (member : held ∈ value) : ∃ json : Json, decode? json = some held := by
  rw [optional_named] at read
  cases found : members.lookup name with
  | none =>
      rw [found] at read
      cases read
      contradiction
  | some json =>
      rw [found] at read
      exact ⟨json, decode?_of_mem read member⟩

theorem countFits_of_decode? {json : Json} {n : Nat} (read : decode? json = some n) :
    CountFits n :=
  (Wire.decode?_nat_eq_some_iff.mp read).2

theorem Assignment.countFits_of_decode? {json : Json} {placement : Assignment}
    (read : decode? json = some placement) : CountFits placement.index := by
  change ofJson? json = some placement at read
  simp only [ofJson?, Option.bind_eq_bind, Option.bind_eq_some_iff] at read
  obtain ⟨parts, -, index, found, workload, -, node, -, same⟩ := read
  cases same
  obtain ⟨part, number⟩ := Wire.exists_decode?_of_required found
  exact Headroom.countFits_of_decode? number

theorem Verdict.fits_of_ofMembers? {tag : VerdictTag} {members : List (String × Json)}
    {verdict : Verdict} (read : ofMembers? tag members = some verdict) : verdict.Fits := by
  cases tag with
  | feasible =>
      cases read
      trivial
  | infeasible =>
      simp only [ofMembers?, Option.bind_eq_bind, Option.bind_eq_some_iff] at read
      obtain ⟨first, -, requested, batch, second, -, schedulable, placed, same⟩ := read
      cases same
      exact ⟨countFits_of_decode? batch, countFits_of_decode? placed⟩

theorem Verdict.fits_of_decode? {json : Json} {verdict : Verdict}
    (read : decode? json = some verdict) : verdict.Fits := by
  change ofJson? json = some verdict at read
  unfold ofJson? at read
  split at read
  · simp only [Option.bind_eq_bind, Option.bind_eq_some_iff] at read
    obtain ⟨part, -, tag, -, numbers⟩ := read
    exact fits_of_ofMembers? numbers
  · rw [Option.bind_eq_bind, Option.bind_eq_some_iff] at read
    obtain ⟨tag, -, same⟩ := read
    cases tag with
    | feasible =>
        cases same
        trivial
    | infeasible => contradiction
  · rw [Option.bind_eq_bind, Option.bind_eq_some_iff] at read
    obtain ⟨tag, -, numbers⟩ := read
    cases tag with
    | feasible => contradiction
    | infeasible =>
        simp only [Option.bind_eq_bind, Option.bind_eq_some_iff] at numbers
        obtain ⟨requested, batch, schedulable, placed, same⟩ := numbers
        cases same
        exact ⟨countFits_of_decode? batch, countFits_of_decode? placed⟩
  · contradiction

theorem Report.fits_of_decode? {json : Json} {report : Report}
    (read : decode? json = some report) : report.Fits := by
  change ofJson? json = some report at read
  simp only [ofJson?, Option.bind_eq_bind, Option.bind_eq_some_iff] at read
  obtain ⟨members, -, part, -, tag, -, verdict, numbers, assignments, listed, firstUnplaced, marked,
    same⟩ := read
  cases same
  refine { verdict := Verdict.fits_of_ofMembers? numbers, assignments := ?_, firstUnplaced := ?_ }
  · intro placement member
    obtain ⟨list, read⟩ := Wire.exists_decode?_of_required listed
    obtain ⟨item, found⟩ := Wire.exists_decode?_of_mem read member
    exact Assignment.countFits_of_decode? found
  · intro index held
    obtain ⟨number, found⟩ := Wire.exists_decode?_of_optional marked held
    exact countFits_of_decode? found

/-! ## All types -/

/-- Values that fit are read back as they were written, and whatever is read fits, so writing it
and reading it again gives the same value. -/
structure Wire.Lossless (α : Type) [Wire α] (Fits : α → Prop) : Prop where
  decode?_encode : ∀ value, Fits value → decode? (encode value) = some value
  encode_again : ∀ json value, decode? json = some value →
    Fits value ∧ decode? (encode value) = some value

theorem Wire.Lossless.of_fits {α : Type} [Wire α] {Fits : α → Prop}
    (back : ∀ {value}, Fits value → decode? (encode value) = some value)
    (fits : ∀ {json value}, decode? json = some value → Fits value) : Lossless α Fits where
  decode?_encode _ := back
  encode_again _ _ read := ⟨fits read, back (fits read)⟩

theorem LawfulWire.lossless (α : Type) [Wire α] [LawfulWire α] :
    Wire.Lossless α fun _ => True :=
  .of_fits (fun _ => decode?_encode _) fun _ => trivial

/-- Every type of the interface comes back from the wire. -/
theorem wire_lossless :
    Wire.Lossless Quantity Quantity.Obtained ∧
    Wire.Lossless ResourceName (fun _ => True) ∧
    Wire.Lossless ResourceList (fun _ => True) ∧
    Wire.Lossless Taint (fun _ => True) ∧
    Wire.Lossless Toleration (fun _ => True) ∧
    Wire.Lossless Requirement (fun _ => True) ∧
    Wire.Lossless NodeSelectorTerm (fun _ => True) ∧
    Wire.Lossless LabelSelector (fun _ => True) ∧
    Wire.Lossless AffinityTerm (fun _ => True) ∧
    Wire.Lossless Workload (fun _ => True) ∧
    Wire.Lossless Profile (fun _ => True) ∧
    Wire.Lossless Config (fun _ => True) ∧
    Wire.Lossless Verdict Verdict.Fits ∧
    Wire.Lossless Assignment (fun placement => CountFits placement.index) ∧
    Wire.Lossless Report Report.Fits :=
  ⟨.of_fits Quantity.decode?_encode Quantity.obtained_of_decode?, LawfulWire.lossless _,
    LawfulWire.lossless _, LawfulWire.lossless _, LawfulWire.lossless _, LawfulWire.lossless _,
    LawfulWire.lossless _, LawfulWire.lossless _, LawfulWire.lossless _, LawfulWire.lossless _,
    LawfulWire.lossless _, LawfulWire.lossless _,
    .of_fits Verdict.decode?_encode Verdict.fits_of_decode?,
    .of_fits Assignment.decode?_encode Assignment.countFits_of_decode?,
    .of_fits Report.decode?_encode Report.fits_of_decode?⟩

namespace Sample

/-- One of two workloads was placed. -/
def halfPlaced : Report where
  verdict := .infeasible 2 1
  assignments := [{ index := 0, workload := "db-1", node := "a" }]
  firstUnplaced := some 1

theorem wire_lossless_halfPlaced :
    halfPlaced.Fits ∧ decode? (encode halfPlaced) = some halfPlaced := by
  obtain ⟨-, -, -, -, -, -, -, -, -, -, -, -, -, -, report⟩ := wire_lossless
  have fits : halfPlaced.Fits := {
    verdict := ⟨by decide, by decide⟩
    assignments := by simp [halfPlaced]
    firstUnplaced := by simp [halfPlaced] }
  exact ⟨fits, report.decode?_encode halfPlaced fits⟩

end Sample

end Headroom
