import Mathlib.Data.List.Basic

/-! # The height-range query of `WalletBackend.cpp`

    `getTransactionsRange(startHeight, endHeight)` copies, with `std::copy_if` into a
    `std::back_inserter`, the transactions of `getTransactions()` whose block height lies
    in `[startHeight, endHeight)`.  `getTransactions()` hands the query on to
    `SubWallets::getTransactions`, which is not in the sources: the list it returns is a
    parameter, in any order and with any heights.  Of a transaction only its `blockHeight`
    is read; heights and bounds are `uint64_t`, compared as numbers.

    * `copyIf_eq` — `std::copy_if` appends, in order, the elements the predicate accepts;
    * `getTransactionsRange_spec` — the query is the half-open filter, it splits at every
      height between its bounds into two disjoint queries that together hold each
      transaction once, and it is empty when the bounds do not increase. -/

namespace WalletQueries

variable {Transaction : Type}

/-- `std::copy_if(first, last, std::back_inserter(result), pred)`: every element of
    `[first, last)` that `pred` accepts is pushed onto the back of `result`, in order. -/
def copyIf (pred : Transaction → Bool) :
    List Transaction → List Transaction → List Transaction
  | result, [] => result
  | result, tx :: txs => copyIf pred (if pred tx then result ++ [tx] else result) txs

theorem copyIf_eq (pred : Transaction → Bool) :
    ∀ result txs : List Transaction, copyIf pred result txs = result ++ txs.filter pred
  | result, [] => by simp [copyIf]
  | result, tx :: txs => by
    by_cases h : pred tx <;> simp [copyIf, copyIf_eq pred _ txs, h]

variable (blockHeight : Transaction → Nat)

/-- `WalletBackend::getTransactionsRange(startHeight, endHeight)` on the list
    `transactions` that `getTransactions()` returned. -/
def getTransactionsRange (transactions : List Transaction) (startHeight endHeight : Nat) :
    List Transaction :=
  copyIf (fun tx => decide (blockHeight tx ≥ startHeight) && decide (blockHeight tx < endHeight))
    [] transactions

/-- The half-open height filter the query computes. -/
theorem getTransactionsRange_eq_filter (transactions : List Transaction)
    (startHeight endHeight : Nat) :
    getTransactionsRange blockHeight transactions startHeight endHeight =
      transactions.filter
        (fun tx => decide (startHeight ≤ blockHeight tx ∧ blockHeight tx < endHeight)) := by
  rw [getTransactionsRange, copyIf_eq, List.nil_append]
  exact List.filter_congr fun tx _ => by simp only [ge_iff_le, Bool.decide_and]

section Split

variable (transactions : List Transaction) {startHeight middle endHeight : Nat}

/-- A transaction the query returns lies within its bounds. -/
theorem bounds_of_mem_getTransactionsRange {tx : Transaction}
    (h : tx ∈ getTransactionsRange blockHeight transactions startHeight endHeight) :
    startHeight ≤ blockHeight tx ∧ blockHeight tx < endHeight := by
  rw [getTransactionsRange_eq_filter, List.mem_filter] at h
  exact of_decide_eq_true h.2

/-- Filtering a range below `middle` keeps the lower range, above it the upper range. -/
theorem getTransactionsRange_filter_lt (hlow : startHeight ≤ middle)
    (hhigh : middle ≤ endHeight) :
    (getTransactionsRange blockHeight transactions startHeight endHeight).filter
        (fun tx => decide (blockHeight tx < middle)) =
      getTransactionsRange blockHeight transactions startHeight middle ∧
    (getTransactionsRange blockHeight transactions startHeight endHeight).filter
        (fun tx => !decide (blockHeight tx < middle)) =
      getTransactionsRange blockHeight transactions middle endHeight := by
  simp only [getTransactionsRange_eq_filter, List.filter_filter]
  constructor <;>
  · refine List.filter_congr fun tx _ => ?_
    simp only [← decide_not, ← Bool.decide_and, decide_eq_decide]
    omega

end Split

/-- **The half-open range query.**  For every list of transactions and every pair of
    bounds, `getTransactionsRange` keeps, in their order, exactly the transactions with
    `startHeight ≤ blockHeight < endHeight`; at every height `middle` between the bounds it
    is, as a multiset, the union of the queries below and above `middle`, which share no
    transaction; and it is empty when `endHeight ≤ startHeight`. -/
theorem getTransactionsRange_spec (transactions : List Transaction)
    (startHeight endHeight : Nat) :
    getTransactionsRange blockHeight transactions startHeight endHeight =
        transactions.filter
          (fun tx => decide (startHeight ≤ blockHeight tx ∧ blockHeight tx < endHeight)) ∧
      (∀ middle, startHeight ≤ middle → middle ≤ endHeight →
        (getTransactionsRange blockHeight transactions startHeight middle ++
            getTransactionsRange blockHeight transactions middle endHeight).Perm
          (getTransactionsRange blockHeight transactions startHeight endHeight) ∧
        (getTransactionsRange blockHeight transactions startHeight middle).Disjoint
          (getTransactionsRange blockHeight transactions middle endHeight)) ∧
      (endHeight ≤ startHeight →
        getTransactionsRange blockHeight transactions startHeight endHeight = []) := by
  refine ⟨getTransactionsRange_eq_filter blockHeight transactions startHeight endHeight,
    fun middle hlow hhigh => ⟨?_, ?_⟩, fun hempty => ?_⟩
  · obtain ⟨hbelow, habove⟩ :=
      getTransactionsRange_filter_lt blockHeight transactions hlow hhigh
    rw [← hbelow, ← habove]
    exact List.filter_append_perm _ _
  · intro tx hbelow habove
    have h1 := bounds_of_mem_getTransactionsRange blockHeight transactions hbelow
    have h2 := bounds_of_mem_getTransactionsRange blockHeight transactions habove
    omega
  · refine List.eq_nil_iff_forall_not_mem.mpr fun tx hmem => ?_
    have h := bounds_of_mem_getTransactionsRange blockHeight transactions hmem
    omega

/-- The transactions of the specification's example, heights `5`, `10`, `10` and `15`, told
    apart by their position: the range `[10, 15)` is the two height-`10` entries, splitting
    `[5, 15)` at `10` loses none, and `[15, 10)` is empty. -/
theorem getTransactionsRange_spec_sample :
    getTransactionsRange Prod.fst [(5, 0), (10, 1), (10, 2), (15, 3)] 10 15 =
        [(10, 1), (10, 2)] ∧
      (getTransactionsRange Prod.fst [(5, 0), (10, 1), (10, 2), (15, 3)] 5 10 ++
          getTransactionsRange Prod.fst [(5, 0), (10, 1), (10, 2), (15, 3)] 10 15).Perm
        (getTransactionsRange Prod.fst [(5, 0), (10, 1), (10, 2), (15, 3)] 5 15) ∧
      getTransactionsRange Prod.fst [(5, 0), (10, 1), (10, 2), (15, 3)] 15 10 =
        ([] : List (Nat × Nat)) :=
  ⟨(getTransactionsRange_spec Prod.fst _ 10 15).1.trans (by decide),
    ((getTransactionsRange_spec Prod.fst _ 5 15).2.1 10 (by decide) (by decide)).1,
    (getTransactionsRange_spec Prod.fst _ 15 10).2.2 (by decide)⟩

end WalletQueries
