/-!
# The manual

What a request for help is answered with.
-/

namespace ChatDice

def usageLines : List String := [
  "```Rollbot",
  "=======",
  "",
  "    USAGE   Performs rolls as defined by the input text.",
  "    PARAMS  A string of space-separated arguments.",
  "    ------- ------------------------------------------------------------------",
  "    ARGS    cursed   - A cursed roll. Will ignore 'd-rolls' if present.",
  "            #d#      - A roll where the first # is the number of times and",
  "                       the second # is the number of sides. Eg: 2d20",
  "                       The first # may be left out. Eg: d20",
  "                       Will not work with in 'cursed-rolls'.",
  "            #d#+#    - A roll with its own modifier. Eg: 2d6+3 or 4d4-1",
  "            adv      - Plays the given rolls a second time and takes the maximum.",
  "            dis      - Plays the given rolls a second time and takes the minimum.",
  "            -#       - A negative modifier. Eg: -3",
  "            +#       - A positive modifier. Eg: +3",
  "            for:\"..\" - A title for the roll. Eg: for:\"Perception check\"",
  "            help     - Shows this manual.",
  "    ------- ------------------------------------------------------------------",
  "    NOTES   The order of the arguments doesn't matter.",
  "            If multiple modifiers are present, only the first will be used.",
  "            Will return an error if both 'adv' and 'dis' are provided.",
  "    EXAMPLE /roll d20 -3",
  "            /roll 2d10 adv +4",
  "            /roll +10 cursed",
  "            /roll dis 2d27 -2 3d101",
  "            /roll 4d4+2 for:\"Perception check\" adv",
  "    ```"]

def usage : String := "\n".intercalate usageLines

end ChatDice
