import RpcTransport.Observe.Counter
import RpcTransport.Observe.Notice

/-! # Journals

What has been reported and counted so far, oldest first.
-/

namespace RpcTransport

structure Journal where
  notices : List Notice := []
  counts : List Count := []
  deriving Repr, DecidableEq

namespace Journal

def note (journal : Journal) (notice : Notice) : Journal :=
  { journal with notices := journal.notices ++ [notice] }

def count (journal : Journal) (count : Count) : Journal :=
  { journal with counts := journal.counts ++ [count] }

@[simp] theorem notices_note (journal : Journal) (notice : Notice) :
    (journal.note notice).notices = journal.notices ++ [notice] := rfl

@[simp] theorem counts_note (journal : Journal) (notice : Notice) :
    (journal.note notice).counts = journal.counts := rfl

@[simp] theorem notices_count (journal : Journal) (count : Count) :
    (journal.count count).notices = journal.notices := rfl

@[simp] theorem counts_count (journal : Journal) (count : Count) :
    (journal.count count).counts = journal.counts ++ [count] := rfl

end Journal

end RpcTransport
