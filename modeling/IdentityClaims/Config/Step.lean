import IdentityClaims.Config.Context

/-!
# Steps of a thread

What happens to the configurations of a process and of one of its threads happens in steps: the
thread opens and leaves blocks, builds a configuration, puts one in force, assigns in the one that
is in force or looks it up, another thread starts, and the variables and files of the process
change. Where a section is built with or assigned, it can be one that another configuration has. A
step that is refused is taken all the same: what it leaves behind is the context after it.
-/

namespace IdentityClaims

/-- Something that happens in a process and one of its threads. Leaving a block at its end and
raising an error that leaves it are two steps; the error is caught outside of the block. -/
inductive Step
  | enter (o : Override)
  | leave
  | raise
  | build (b : Blueprint)
  | replace (p : Nat)
  | assign (a : Assignment)
  | share (n : SectionName) (i : Nat)
  | look
  | newThread
  | changeHost (host : Host)
  deriving Repr

def Step.leaves : Step → Bool
  | leave | raise => true
  | _ => false

namespace Context

def take (x : Context) : Step → Context
  | .enter o => (x.enter o).1
  | .leave => x.leave
  | .raise => x.leave
  | .build b => if x.store.Offers b then (x.build b).1 else x
  | .replace p => if x.store.Has p then (x.replace p).1 else x
  | .assign a => (x.mutate a).1
  | .share n i => if i < (x.store.sections n).length then (x.share n i).1 else x
  | .look => x.inForce.1
  | .newThread => x.needDefault.1
  | .changeHost host => { x with host }

def run (x : Context) (steps : List Step) : Context := steps.foldl take x

@[simp] theorem run_nil (x : Context) : x.run [] = x := rfl

theorem run_cons (x : Context) (s : Step) (steps : List Step) :
    x.run (s :: steps) = (x.take s).run steps := rfl

theorem run_append (x : Context) (as bs : List Step) : x.run (as ++ bs) = (x.run as).run bs :=
  List.foldl_append

end Context

end IdentityClaims
