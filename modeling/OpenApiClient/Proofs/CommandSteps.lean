import OpenApiClient.Command.Run
import OpenApiClient.Proofs.TreePictures

/-!
# Steps of commands on file trees

A command is a computation that may fail, with a transcript, on a file tree.  Its steps up to the
first change of a file (`Command.prepare`) only read the tree.  The steps after them
(`Command.publish`) leave a tree behind whose picture is that of the tree before them with the
changes that they were asked for.
-/

namespace OpenApiClient

/-- A computation that may fail, with a state of its own, on a file tree. -/
abbrev OnTree (ε σ α : Type) := ExceptT ε (StateT σ (StateM FileTree)) α

def OnlyReads {α : Type} (x : StateM FileTree α) : Prop := ∀ tree, (x.run tree).2 = tree

theorem onlyReads_bind {α β : Type} {x : StateM FileTree α} {f : α → StateM FileTree β}
    (hx : OnlyReads x) (hf : ∀ a, OnlyReads (f a)) : OnlyReads (x >>= f) := by
  intro tree
  exact (hf (x.run tree).1 (x.run tree).2).trans (hx tree)

namespace OnTree

variable {ε σ α β : Type} {x : OnTree ε σ α} {f : α → OnTree ε σ β} {s s' : σ}
  {tree tree' : FileTree}

def result (x : OnTree ε σ α) (s : σ) (tree : FileTree) : (Except ε α × σ) × FileTree :=
  ((ExceptT.run x).run s).run tree

theorem result_bind_of_ok {a : α} (h : x.result s tree = ((.ok a, s'), tree')) :
    (x >>= f).result s tree = (f a).result s' tree' := by
  change (ExceptT.bindCont f (x.result s tree).1.1 (x.result s tree).1.2) (x.result s tree).2 = _
  rw [h]
  rfl

theorem result_bind_of_error {e : ε} (h : x.result s tree = ((.error e, s'), tree')) :
    (x >>= f).result s tree = ((.error e, s'), tree') := by
  change (ExceptT.bindCont f (x.result s tree).1.1 (x.result s tree).1.2) (x.result s tree).2 = _
  rw [h]
  rfl

theorem of_result_bind_eq_ok {b : β} (h : (x >>= f).result s tree = ((.ok b, s'), tree')) :
    ∃ a middle between, x.result s tree = ((.ok a, middle), between) ∧
      (f a).result middle between = ((.ok b, s'), tree') := by
  rcases hx : x.result s tree with ⟨⟨_ | a, middle⟩, between⟩
  · rw [result_bind_of_error hx] at h
    cases h
  · rw [result_bind_of_ok hx] at h
    exact ⟨a, middle, between, rfl, h⟩

theorem result_lift (x : StateM FileTree α) (s : σ) (tree : FileTree) :
    result (liftM x : OnTree ε σ α) s tree = ((.ok (x.run tree).1, s), (x.run tree).2) := rfl

/-- A computation never changes the tree, whether it succeeds or not. -/
def Reads (x : OnTree ε σ α) : Prop := ∀ s tree, (x.result s tree).2 = tree

def Succeeds (x : OnTree ε σ α) : Prop := ∀ s tree, ∃ a s', x.result s tree = ((.ok a, s'), tree)

theorem succeeds_pure (a : α) : Succeeds (pure a : OnTree ε σ α) := fun s _ => ⟨a, s, rfl⟩

theorem succeeds_modify (f : σ → σ) : Succeeds (modify f : OnTree ε σ PUnit) :=
  fun s _ => ⟨⟨⟩, f s, rfl⟩

theorem succeeds_bind (hx : Succeeds x) (hf : ∀ a, Succeeds (f a)) : Succeeds (x >>= f) := by
  intro s tree
  obtain ⟨a, middle, hrun⟩ := hx s tree
  obtain ⟨b, s', h⟩ := hf a middle tree
  exact ⟨b, s', (result_bind_of_ok hrun).trans h⟩

theorem succeeds_forIn {items : List α} {init : β} {f : α → β → OnTree ε σ (ForInStep β)}
    (h : ∀ item b, Succeeds (f item b)) : Succeeds (forIn items init f) := by
  induction items generalizing init with
  | nil => exact succeeds_pure init
  | cons item items ih =>
      rw [List.forIn_cons]
      refine succeeds_bind (h item init) fun
        | .done b => succeeds_pure b
        | .yield b => ih

end OnTree

namespace Running

open OnTree

variable {ε α β : Type} {tree : FileTree}

theorem succeeds_note (line : String) :
    Succeeds (note line : Running (StateM FileTree) Unit) :=
  succeeds_modify _

variable {contexts : List String} {transcript transcript' : Transcript} {tree' : FileTree} {a : α}

theorem of_check_eq_ok {wrap : ε → FailureCause} {result : Except ε α}
    (h : OnTree.result (check contexts wrap result) transcript tree =
      ((.ok a, transcript'), tree')) :
    result = .ok a ∧ transcript' = transcript ∧ tree' = tree := by
  cases result with
  | error e => cases h
  | ok b =>
      cases h
      exact ⟨rfl, rfl, rfl⟩

theorem of_onFiles_eq_ok {operation : StateM FileTree (Except FileError α)}
    (h : OnTree.result (onFiles contexts operation) transcript tree =
      ((.ok a, transcript'), tree')) :
    operation.run tree = (.ok a, tree') ∧ transcript' = transcript := by
  obtain ⟨result, middle, between, hlift, hcheck⟩ := of_result_bind_eq_ok h
  obtain ⟨rfl, rfl, rfl⟩ := of_check_eq_ok hcheck
  rw [result_lift] at hlift
  obtain ⟨hleft, htree⟩ := Prod.mk.inj hlift
  obtain ⟨hresult, htranscript⟩ := Prod.mk.inj hleft
  exact ⟨Prod.ext (Except.ok.inj hresult) htree, htranscript.symm⟩

theorem onFiles_eq_ok {operation : StateM FileTree (Except FileError α)}
    (h : operation.run tree = (.ok a, tree')) (transcript : Transcript) :
    OnTree.result (onFiles contexts operation) transcript tree =
      ((.ok a, transcript), tree') := by
  refine (result_bind_of_ok (result_lift operation transcript tree)).trans ?_
  rw [h]
  rfl

theorem reporting_eq_ok {wrap : ε → FailureCause} {step : ReportingT ε (StateM FileTree) α}
    {notices : List Notice}
    (h : (ExceptT.run step).run transcript.notices = pure (.ok a, notices)) :
    OnTree.result (reporting contexts wrap step) transcript tree =
      ((.ok a, { transcript with notices }), tree) := by
  unfold reporting
  change (((ExceptT.run step).run transcript.notices >>= fun run => pure
    (run.1.mapError _, { transcript with notices := run.2 })) : StateM FileTree _).run tree = _
  rw [h]
  rfl

end Running

/-! ## Reading -/

open OnTree

theorem onlyReads_readText (path : String) : OnlyReads (FileTree.access.readText path) := by
  refine onlyReads_bind (fun _ => rfl) fun
    | .error error => fun _ => rfl
    | .ok content => ?_
  dsimp only
  cases String.fromUTF8? content <;> exact fun _ => rfl

theorem onlyReads_loadConfig : OnlyReads (Config.load FileTree.access) := by
  refine onlyReads_bind (fun _ => rfl) fun
    | false => fun _ => rfl
    | true => onlyReads_bind (onlyReads_readText _) fun
      | .error cause => fun _ => rfl
      | .ok text => ?_
  dsimp only
  cases Config.ofText text <;> exact fun _ => rfl

namespace Command

theorem succeeds_printOverview (api : Api) :
    Succeeds (printOverview api : Running (StateM FileTree) Unit) := by
  refine succeeds_bind (Running.succeeds_note _) fun _ => succeeds_bind ?_ fun _ =>
    Running.succeeds_note _
  refine succeeds_forIn fun endpoint _ => succeeds_bind (Running.succeeds_note _) fun _ => ?_
  refine succeeds_bind (succeeds_forIn fun method _ => ?_) fun _ => succeeds_pure _
  exact succeeds_bind (Running.succeeds_note _) fun _ => succeeds_pure _

end Command
end OpenApiClient
