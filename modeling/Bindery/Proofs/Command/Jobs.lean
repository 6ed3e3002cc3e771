import Bindery.Command.Run

set_option autoImplicit false
set_option relaxedAutoImplicit false

/-!
Commands over a tree of files. A command that succeeds is made of pieces that succeed, each of them
on the tree that the one before it left, and a piece that fails is the last one; reading a
description leaves the tree as it was.
-/

namespace Bindery.Command

variable {crate : Option String} {tree after : FileTree} {entries : List Entry}

/-- What a piece of a command comes to over a tree of files, and the tree that it leaves. -/
def Job.over {α : Type} (job : Job (StateM FileTree) α) (tree : FileTree) :
    Run Report α × FileTree :=
  StateT.run (m := Id) job tree

def Job.Ends {α : Type} (job : Job (StateM FileTree) α) (tree : FileTree) (result : Except Report α)
    (after : FileTree) : Prop :=
  ∃ entries, job.over tree = (⟨entries, result⟩, after)

-- The second piece depends on the first only through what that comes to over the tree.
theorem Job.over_bind {α β : Type} (job : Job (StateM FileTree) α)
    (next : α → Job (StateM FileTree) β) (tree : FileTree) :
    (job >>= next).over tree =
      (Job.andThen (m := StateM FileTree) (fun _ => job.over tree) next).over tree := rfl

theorem Job.over_attempt {α : Type} (message : String)
    (action : StateM FileTree (Except FileFault α)) (tree : FileTree) :
    (Job.attempt message action).over tree =
      (Job.attempt (m := StateM FileTree) message
        fun _ => StateT.run (m := Id) action tree).over tree := rfl

theorem Job.ok_of_bind {α β : Type} {job : Job (StateM FileTree) α}
    {next : α → Job (StateM FileTree) β} {b : β}
    (done : (job >>= next).over tree = (⟨entries, .ok b⟩, after)) :
    ∃ a left before rest, job.over tree = (⟨before, .ok a⟩, left) ∧
      (next a).over left = (⟨rest, .ok b⟩, after) := by
  rw [Job.over_bind] at done
  rcases ran : job.over tree with ⟨⟨before, result⟩, left⟩
  rw [ran] at done
  cases result with
  | error report => cases done
  | ok a =>
    have second : ((next a).over left).1.result = .ok b := congrArg (fun p => p.1.result) done
    have last : ((next a).over left).2 = after := congrArg Prod.snd done
    refine ⟨a, left, before, ((next a).over left).1.entries, rfl, ?_⟩
    rw [← second, ← last]

theorem Job.Ends.andThen {α β : Type} {job : Job (StateM FileTree) α}
    {next : α → Job (StateM FileTree) β} {a : α} {left : FileTree} {result : Except Report β}
    (first : job.Ends tree (.ok a) left) (second : (next a).Ends left result after) :
    (job >>= next).Ends tree result after := by
  obtain ⟨before, first⟩ := first
  obtain ⟨rest, second⟩ := second
  have goesOn :
      (Job.andThen (m := StateM FileTree) (fun _ => (⟨before, .ok a⟩, left)) next).over tree =
      (⟨before ++ ((next a).over left).1.entries, ((next a).over left).1.result⟩,
        ((next a).over left).2) := rfl
  rw [second] at goesOn
  refine ⟨before ++ rest, ?_⟩
  rw [Job.over_bind, first, goesOn]

theorem Job.Ends.stop {α β : Type} {job : Job (StateM FileTree) α} {report : Report}
    (failed : job.Ends tree (.error report) after) (next : α → Job (StateM FileTree) β) :
    (job >>= next).Ends tree (.error report) after := by
  obtain ⟨before, failed⟩ := failed
  refine ⟨before, ?_⟩
  rw [Job.over_bind, failed]
  rfl

theorem Job.ends_ofRun {α : Type} {r : Run Report α} {result : Except Report α}
    (comes : r.result = result) : (Job.ofRun r).Ends tree result tree :=
  ⟨r.entries, by rw [← comes]; rfl⟩

theorem Job.ends_attempt {α : Type} {message : String}
    {action : StateM FileTree (Except FileFault α)} {a : α}
    (done : StateT.run (m := Id) action tree = (.ok a, after)) :
    (Job.attempt message action).Ends tree (.ok a) after := by
  refine ⟨[], ?_⟩
  rw [Job.over_attempt, done]
  rfl

theorem Job.ok_of_attempt {α : Type} {message : String}
    {action : StateM FileTree (Except FileFault α)} {a : α}
    (done : (Job.attempt message action).over tree = (⟨entries, .ok a⟩, after)) :
    StateT.run (m := Id) action tree = (.ok a, after) := by
  rw [Job.over_attempt] at done
  rcases ran : StateT.run (m := Id) action tree with ⟨result, left⟩
  rw [ran] at done
  cases result with
  | error fault => cases done
  | ok value => cases done; rfl

theorem run_of_ends {fs : FileSystem (StateM FileTree)} {args : List String} {request : Request}
    {volume : Int} {result : Except Report String} (asked : parse args = .ok ⟨request, volume⟩)
    (ends : (perform fs request).Ends tree result after) :
    ((run fs args).run tree).1.2 = outcomeOf ⟨[], result⟩ ∧ ((run fs args).run tree).2 = after := by
  obtain ⟨entries, ends⟩ := ends
  have ended : ((run fs args).run tree).1.2 = outcomeOf ((perform fs request).over tree).1 ∧
      ((run fs args).run tree).2 = ((perform fs request).over tree).2 := by
    rw [run, asked]
    exact ⟨rfl, rfl⟩
  rw [ends] at ended
  exact ended

theorem text_of_toUTF8 (text : String) (modified : Int) :
    StoredFile.text ⟨text.toUTF8, modified⟩ = .ok text := by
  have decoded : String.fromUTF8? text.toUTF8 = some text := dif_pos text.isValidUTF8
  simp only [StoredFile.text, decoded]

theorem readItems_ok {path : String} {items : Items}
    (done : (readItems (FileTree.fileSystem crate) path).over tree =
      (⟨entries, .ok items⟩, after)) :
    after = tree ∧ ∃ source, tree.read path = .ok source ∧ Items.parse source = .ok items := by
  obtain ⟨text, left, _, rest, found, read⟩ := Job.ok_of_bind done
  have source : tree.read path = .ok text ∧ left = tree := by
    have stored : (((tree.read path).map fun text => (⟨text.toUTF8, 0⟩ : StoredFile)).bind
        StoredFile.text, tree) = (.ok text, left) := Job.ok_of_attempt found
    obtain ⟨decoded, rfl⟩ := Prod.mk.inj stored
    cases contents : tree.read path with
    | error fault =>
      rw [contents] at decoded
      cases decoded
    | ok source =>
      rw [contents, Except.map, Except.bind, text_of_toUTF8] at decoded
      exact ⟨decoded, rfl⟩
  cases parsed : Items.parse text with
  | error e =>
    rw [parsed] at read
    cases read
  | ok value =>
    rw [parsed] at read
    obtain ⟨_, middle, _, _, noted, final⟩ := Job.ok_of_bind read
    cases noted
    cases final
    exact ⟨source.2, text, source.1, parsed⟩

end Bindery.Command
