import DmarcReportViewer.Basic
import DmarcReportViewer.Lib.Collections

/-!
# The cache of looked up values

The model of `cache_map.rs`.  A cache always has room for one entry, which the
type guarantees.  The entry to be dropped is searched in the iteration order
of the underlying hash map.
-/

namespace DmarcReportViewer

open Collections

structure CacheMap.Entry (β : Type) where
  inserted : UInt64
  value : β

structure CacheMap (κ β : Type) [Ord κ] where
  map : HashMap κ (CacheMap.Entry β)
  maxSize : Nat
  counter : UInt64
  maxSize_pos : 1 ≤ maxSize

namespace CacheMap

variable {κ β : Type} [Ord κ]

def ofSize (maxSize : Nat) (maxSize_pos : 1 ≤ maxSize) : CacheMap κ β where
  map := ∅
  maxSize := maxSize
  counter := 0
  maxSize_pos := maxSize_pos

def new (maxSize : Nat) : Result (CacheMap κ β) :=
  if maxSize_pos : 1 ≤ maxSize then
    .ok (ofSize maxSize maxSize_pos)
  else
    .error "max_size needs to be one or bigger"

/-- The first of the entries with the smallest insertion stamp. -/
def oldest : List (κ × Entry β) → Option (κ × Entry β)
  | [] => none
  | entry :: rest =>
      some (rest.foldl
        (fun best next => if next.2.inserted < best.2.inserted then next else best) entry)

variable [Std.TransOrd κ]

def get (cache : CacheMap κ β) (key : κ) : Option β :=
  cache.map[key]?.map Entry.value

def prune (order : IterationOrder κ (Entry β)) (cache : CacheMap κ β) : CacheMap κ β :=
  match oldest (iterate order cache.map) with
  | some entry => { cache with map := cache.map.erase entry.1 }
  | none => cache

def insert (order : IterationOrder κ (Entry β)) (cache : CacheMap κ β) (key : κ) (value : β) :
    CacheMap κ β :=
  let cache := if cache.maxSize ≤ cache.map.size then cache.prune order else cache
  { cache with
    map := cache.map.insert key { inserted := cache.counter, value := value }
    counter := cache.counter + 1 }

end CacheMap

end DmarcReportViewer
