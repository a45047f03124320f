import LiveConfig.Unicode.Normal
import LiveConfig.Unicode.Property

/-!
# Joiners

Letters of some scripts join the letter after them, the one before them, or both.
Two characters without a shape ask for joined or for separate forms.  They stand
after a mark that takes a vowel away, and the one that separates also between two
letters that would join.  The tables are right for the characters that a domain may
hold.
-/

namespace LiveConfig
namespace Unicode

/-- Letters that join on both sides. -/
def joinsBothSet : CharSet :=
  .ofTable
    "620 626 628 62a-62e 633-63f 641-647 649-64a 66e-66f 679-687 69a-6bf 6c1-6c2 6cc 6ce 6d0-6d1
    6fa-6fc 6ff 712-714 71a-71d 71f-727 729 72b 72d-72e 74e-758 75c-76a 76d-770 772 775-777
    77a-77f 7ca-7ea 841-845 848 84a-853 855 860 862-865 868 886 889-88d 88f-8a9 8af-8b0 8b3-8b8
    8ba-8c8 1807 1820-1878 1887-18aa a840-a871 10ac0-10ac4 10ad3-10ad6 10ad8-10adc 10ade-10ae0
    10aeb-10aee 10b80 10b82 10b86-10b88 10b8a-10b8b 10b8d 10b90 10bad-10bae 10d01-10d21 10d23
    10ec3-10ec4 10ec6-10ec7 10f30-10f32 10f34-10f44 10f51-10f53 10f70-10f73 10f76-10f81 10fb0
    10fb2-10fb3 10fb8 10fbb-10fbc 10fbe-10fbf 10fc1 10fc4 10fca 1e922-1e943"

/-- Letters that join the next one only. -/
def joinsNextSet : CharSet :=
  .ofTable
    "a872 10acd 10ad7 10d00 10fcb"

/-- Letters that join the one before them only. -/
def joinsPreviousSet : CharSet :=
  .ofTable
    "622-625 627 629 62f-632 648 671-673 688-699 6c0 6c3-6cb 6cd 6cf 6d2-6d3 6d5 6ee-6ef 710
    715-719 71e 728 72a 72c 72f-74d 759-75b 76b-76c 771 773-774 778-779 840 846-847 849 854
    856-858 867 869-882 88e 8aa-8ac 8ae 8b1-8b2 8b9 10ac5 10ac7 10ac9-10aca 10ace-10ad2 10add
    10ae1 10ae4 10aef 10b81 10b83-10b85 10b89 10b8c 10b8e-10b8f 10b91 10ba9-10bac 10d22 10ec2
    10f33 10f54 10f74-10f75 10fb4-10fb6 10fb9-10fba 10fbd 10fc2-10fc3 10fc9"

/-- What stands between joined letters without a difference. -/
def transparentSet : CharSet :=
  (categorySet .v17 ["Mn", "Me"]).union (.single 0x1E94B)

def separator : Char := '\u200C'

def joiner : Char := '\u200D'

/-- The combining class of the marks that take a vowel away. -/
def vowelKiller : Nat := 9

def joinsNext (c : Char) : Bool := joinsBothSet.mem c || joinsNextSet.mem c

def joinsPrevious (c : Char) : Bool := joinsBothSet.mem c || joinsPreviousSet.mem c

/-- Whether every joiner and separator after the characters of `before`, which is
reversed, stands where it has a meaning. -/
def joinersFit : (before : List Char) → List Char → Bool
  | _, [] => true
  | before, c :: rest =>
    let fits :=
      if c == separator || c == joiner then
        before.head?.any (fun p => combiningClass p.toNat == vowelKiller) ||
          (c == separator && (before.dropWhile transparentSet.mem).head?.any joinsNext &&
            (rest.dropWhile transparentSet.mem).head?.any joinsPrevious)
      else true
    fits && joinersFit (c :: before) rest

end Unicode
end LiveConfig
