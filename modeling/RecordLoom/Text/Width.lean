import RecordLoom.Text.Stride

/-!
Cells that a terminal gives to a text.  A character takes one cell if it is in no table.  A joiner
draws the next character into the last one, and a presentation mark makes some narrow characters
wide.  The tables follow a later version of the database than the others here.
-/

namespace RecordLoom.Text

def zeroWidthStrides : List Stride :=
  [⟨0, 31, 1⟩, ⟨127, 159, 1⟩, ⟨173, 173, 1⟩, ⟨768, 879, 1⟩, ⟨1155, 1161, 1⟩, ⟨1425, 1469, 1⟩,
   ⟨1471, 1471, 1⟩, ⟨1473, 1474, 1⟩, ⟨1476, 1477, 1⟩, ⟨1479, 1479, 1⟩, ⟨1536, 1541, 1⟩,
   ⟨1552, 1562, 1⟩, ⟨1564, 1564, 1⟩, ⟨1611, 1631, 1⟩, ⟨1648, 1648, 1⟩, ⟨1750, 1757, 1⟩,
   ⟨1759, 1764, 1⟩, ⟨1767, 1768, 1⟩, ⟨1770, 1773, 1⟩, ⟨1807, 1807, 1⟩, ⟨1809, 1809, 1⟩,
   ⟨1840, 1866, 1⟩, ⟨1958, 1968, 1⟩, ⟨2027, 2035, 1⟩, ⟨2045, 2045, 1⟩, ⟨2070, 2073, 1⟩,
   ⟨2075, 2083, 1⟩, ⟨2085, 2087, 1⟩, ⟨2089, 2093, 1⟩, ⟨2137, 2139, 1⟩, ⟨2192, 2193, 1⟩,
   ⟨2200, 2207, 1⟩, ⟨2250, 2307, 1⟩, ⟨2362, 2364, 1⟩, ⟨2366, 2383, 1⟩, ⟨2385, 2391, 1⟩,
   ⟨2402, 2403, 1⟩, ⟨2433, 2435, 1⟩, ⟨2492, 2492, 1⟩, ⟨2494, 2500, 1⟩, ⟨2503, 2504, 1⟩,
   ⟨2507, 2509, 1⟩, ⟨2519, 2519, 1⟩, ⟨2530, 2531, 1⟩, ⟨2558, 2558, 1⟩, ⟨2561, 2563, 1⟩,
   ⟨2620, 2620, 1⟩, ⟨2622, 2626, 1⟩, ⟨2631, 2632, 1⟩, ⟨2635, 2637, 1⟩, ⟨2641, 2641, 1⟩,
   ⟨2672, 2673, 1⟩, ⟨2677, 2677, 1⟩, ⟨2689, 2691, 1⟩, ⟨2748, 2748, 1⟩, ⟨2750, 2757, 1⟩,
   ⟨2759, 2761, 1⟩, ⟨2763, 2765, 1⟩, ⟨2786, 2787, 1⟩, ⟨2810, 2815, 1⟩, ⟨2817, 2819, 1⟩,
   ⟨2876, 2876, 1⟩, ⟨2878, 2884, 1⟩, ⟨2887, 2888, 1⟩, ⟨2891, 2893, 1⟩, ⟨2901, 2903, 1⟩,
   ⟨2914, 2915, 1⟩, ⟨2946, 2946, 1⟩, ⟨3006, 3010, 1⟩, ⟨3014, 3016, 1⟩, ⟨3018, 3021, 1⟩,
   ⟨3031, 3031, 1⟩, ⟨3072, 3076, 1⟩, ⟨3132, 3132, 1⟩, ⟨3134, 3140, 1⟩, ⟨3142, 3144, 1⟩,
   ⟨3146, 3149, 1⟩, ⟨3157, 3158, 1⟩, ⟨3170, 3171, 1⟩, ⟨3201, 3203, 1⟩, ⟨3260, 3260, 1⟩,
   ⟨3262, 3268, 1⟩, ⟨3270, 3272, 1⟩, ⟨3274, 3277, 1⟩, ⟨3285, 3286, 1⟩, ⟨3298, 3299, 1⟩,
   ⟨3315, 3315, 1⟩, ⟨3328, 3331, 1⟩, ⟨3387, 3388, 1⟩, ⟨3390, 3396, 1⟩, ⟨3398, 3400, 1⟩,
   ⟨3402, 3405, 1⟩, ⟨3415, 3415, 1⟩, ⟨3426, 3427, 1⟩, ⟨3457, 3459, 1⟩, ⟨3530, 3530, 1⟩,
   ⟨3535, 3540, 1⟩, ⟨3542, 3542, 1⟩, ⟨3544, 3551, 1⟩, ⟨3570, 3571, 1⟩, ⟨3633, 3633, 1⟩,
   ⟨3636, 3642, 1⟩, ⟨3655, 3662, 1⟩, ⟨3761, 3761, 1⟩, ⟨3764, 3772, 1⟩, ⟨3784, 3790, 1⟩,
   ⟨3864, 3865, 1⟩, ⟨3893, 3893, 1⟩, ⟨3895, 3895, 1⟩, ⟨3897, 3897, 1⟩, ⟨3902, 3903, 1⟩,
   ⟨3953, 3972, 1⟩, ⟨3974, 3975, 1⟩, ⟨3981, 3991, 1⟩, ⟨3993, 4028, 1⟩, ⟨4038, 4038, 1⟩,
   ⟨4139, 4158, 1⟩, ⟨4182, 4185, 1⟩, ⟨4190, 4192, 1⟩, ⟨4194, 4196, 1⟩, ⟨4199, 4205, 1⟩,
   ⟨4209, 4212, 1⟩, ⟨4226, 4237, 1⟩, ⟨4239, 4239, 1⟩, ⟨4250, 4253, 1⟩, ⟨4448, 4607, 1⟩,
   ⟨4957, 4959, 1⟩, ⟨5906, 5909, 1⟩, ⟨5938, 5940, 1⟩, ⟨5970, 5971, 1⟩, ⟨6002, 6003, 1⟩,
   ⟨6068, 6099, 1⟩, ⟨6109, 6109, 1⟩, ⟨6155, 6159, 1⟩, ⟨6277, 6278, 1⟩, ⟨6313, 6313, 1⟩,
   ⟨6432, 6443, 1⟩, ⟨6448, 6459, 1⟩, ⟨6679, 6683, 1⟩, ⟨6741, 6750, 1⟩, ⟨6752, 6780, 1⟩,
   ⟨6783, 6783, 1⟩, ⟨6832, 6862, 1⟩, ⟨6912, 6916, 1⟩, ⟨6964, 6980, 1⟩, ⟨7019, 7027, 1⟩,
   ⟨7040, 7042, 1⟩, ⟨7073, 7085, 1⟩, ⟨7142, 7155, 1⟩, ⟨7204, 7223, 1⟩, ⟨7376, 7378, 1⟩,
   ⟨7380, 7400, 1⟩, ⟨7405, 7405, 1⟩, ⟨7412, 7412, 1⟩, ⟨7415, 7417, 1⟩, ⟨7616, 7679, 1⟩,
   ⟨8203, 8207, 1⟩, ⟨8232, 8238, 1⟩, ⟨8288, 8292, 1⟩, ⟨8294, 8303, 1⟩, ⟨8400, 8432, 1⟩,
   ⟨11503, 11505, 1⟩, ⟨11647, 11647, 1⟩, ⟨11744, 11775, 1⟩, ⟨12330, 12335, 1⟩, ⟨12441, 12442, 1⟩,
   ⟨42607, 42610, 1⟩, ⟨42612, 42621, 1⟩, ⟨42654, 42655, 1⟩, ⟨42736, 42737, 1⟩, ⟨43010, 43010, 1⟩,
   ⟨43014, 43014, 1⟩, ⟨43019, 43019, 1⟩, ⟨43043, 43047, 1⟩, ⟨43052, 43052, 1⟩, ⟨43136, 43137, 1⟩,
   ⟨43188, 43205, 1⟩, ⟨43232, 43249, 1⟩, ⟨43263, 43263, 1⟩, ⟨43302, 43309, 1⟩, ⟨43335, 43347, 1⟩,
   ⟨43392, 43395, 1⟩, ⟨43443, 43456, 1⟩, ⟨43493, 43493, 1⟩, ⟨43561, 43574, 1⟩, ⟨43587, 43587, 1⟩,
   ⟨43596, 43597, 1⟩, ⟨43643, 43645, 1⟩, ⟨43696, 43696, 1⟩, ⟨43698, 43700, 1⟩, ⟨43703, 43704, 1⟩,
   ⟨43710, 43711, 1⟩, ⟨43713, 43713, 1⟩, ⟨43755, 43759, 1⟩, ⟨43765, 43766, 1⟩, ⟨44003, 44010, 1⟩,
   ⟨44012, 44013, 1⟩, ⟨55216, 55295, 1⟩, ⟨64286, 64286, 1⟩, ⟨65024, 65039, 1⟩, ⟨65056, 65071, 1⟩,
   ⟨65279, 65279, 1⟩, ⟨65529, 65531, 1⟩, ⟨66045, 66045, 1⟩, ⟨66272, 66272, 1⟩, ⟨66422, 66426, 1⟩,
   ⟨68097, 68099, 1⟩, ⟨68101, 68102, 1⟩, ⟨68108, 68111, 1⟩, ⟨68152, 68154, 1⟩, ⟨68159, 68159, 1⟩,
   ⟨68325, 68326, 1⟩, ⟨68900, 68903, 1⟩, ⟨69291, 69292, 1⟩, ⟨69373, 69375, 1⟩, ⟨69446, 69456, 1⟩,
   ⟨69506, 69509, 1⟩, ⟨69632, 69634, 1⟩, ⟨69688, 69702, 1⟩, ⟨69744, 69744, 1⟩, ⟨69747, 69748, 1⟩,
   ⟨69759, 69762, 1⟩, ⟨69808, 69818, 1⟩, ⟨69821, 69821, 1⟩, ⟨69826, 69826, 1⟩, ⟨69837, 69837, 1⟩,
   ⟨69888, 69890, 1⟩, ⟨69927, 69940, 1⟩, ⟨69957, 69958, 1⟩, ⟨70003, 70003, 1⟩, ⟨70016, 70018, 1⟩,
   ⟨70067, 70080, 1⟩, ⟨70089, 70092, 1⟩, ⟨70094, 70095, 1⟩, ⟨70188, 70199, 1⟩, ⟨70206, 70206, 1⟩,
   ⟨70209, 70209, 1⟩, ⟨70367, 70378, 1⟩, ⟨70400, 70403, 1⟩, ⟨70459, 70460, 1⟩, ⟨70462, 70468, 1⟩,
   ⟨70471, 70472, 1⟩, ⟨70475, 70477, 1⟩, ⟨70487, 70487, 1⟩, ⟨70498, 70499, 1⟩, ⟨70502, 70508, 1⟩,
   ⟨70512, 70516, 1⟩, ⟨70709, 70726, 1⟩, ⟨70750, 70750, 1⟩, ⟨70832, 70851, 1⟩, ⟨71087, 71093, 1⟩,
   ⟨71096, 71104, 1⟩, ⟨71132, 71133, 1⟩, ⟨71216, 71232, 1⟩, ⟨71339, 71351, 1⟩, ⟨71453, 71467, 1⟩,
   ⟨71724, 71738, 1⟩, ⟨71984, 71989, 1⟩, ⟨71991, 71992, 1⟩, ⟨71995, 71998, 1⟩, ⟨72000, 72000, 1⟩,
   ⟨72002, 72003, 1⟩, ⟨72145, 72151, 1⟩, ⟨72154, 72160, 1⟩, ⟨72164, 72164, 1⟩, ⟨72193, 72202, 1⟩,
   ⟨72243, 72249, 1⟩, ⟨72251, 72254, 1⟩, ⟨72263, 72263, 1⟩, ⟨72273, 72283, 1⟩, ⟨72330, 72345, 1⟩,
   ⟨72751, 72758, 1⟩, ⟨72760, 72767, 1⟩, ⟨72850, 72871, 1⟩, ⟨72873, 72886, 1⟩, ⟨73009, 73014, 1⟩,
   ⟨73018, 73018, 1⟩, ⟨73020, 73021, 1⟩, ⟨73023, 73029, 1⟩, ⟨73031, 73031, 1⟩, ⟨73098, 73102, 1⟩,
   ⟨73104, 73105, 1⟩, ⟨73107, 73111, 1⟩, ⟨73459, 73462, 1⟩, ⟨73472, 73473, 1⟩, ⟨73475, 73475, 1⟩,
   ⟨73524, 73530, 1⟩, ⟨73534, 73538, 1⟩, ⟨78896, 78912, 1⟩, ⟨78919, 78933, 1⟩, ⟨92912, 92916, 1⟩,
   ⟨92976, 92982, 1⟩, ⟨94031, 94031, 1⟩, ⟨94033, 94087, 1⟩, ⟨94095, 94098, 1⟩, ⟨94180, 94180, 1⟩,
   ⟨94192, 94193, 1⟩, ⟨113821, 113822, 1⟩, ⟨113824, 113827, 1⟩, ⟨118528, 118573, 1⟩,
   ⟨118576, 118598, 1⟩, ⟨119141, 119145, 1⟩, ⟨119149, 119170, 1⟩, ⟨119173, 119179, 1⟩,
   ⟨119210, 119213, 1⟩, ⟨119362, 119364, 1⟩, ⟨121344, 121398, 1⟩, ⟨121403, 121452, 1⟩,
   ⟨121461, 121461, 1⟩, ⟨121476, 121476, 1⟩, ⟨121499, 121503, 1⟩, ⟨121505, 121519, 1⟩,
   ⟨122880, 122886, 1⟩, ⟨122888, 122904, 1⟩, ⟨122907, 122913, 1⟩, ⟨122915, 122916, 1⟩,
   ⟨122918, 122922, 1⟩, ⟨123023, 123023, 1⟩, ⟨123184, 123190, 1⟩, ⟨123566, 123566, 1⟩,
   ⟨123628, 123631, 1⟩, ⟨124140, 124143, 1⟩, ⟨125136, 125142, 1⟩, ⟨125252, 125258, 1⟩,
   ⟨127995, 127999, 1⟩, ⟨917505, 917505, 1⟩, ⟨917536, 917631, 1⟩, ⟨917760, 917999, 1⟩]

def doubleWidthStrides : List Stride :=
  [⟨4352, 4447, 1⟩, ⟨8986, 8987, 1⟩, ⟨9001, 9002, 1⟩, ⟨9193, 9196, 1⟩, ⟨9200, 9200, 1⟩,
   ⟨9203, 9203, 1⟩, ⟨9725, 9726, 1⟩, ⟨9748, 9749, 1⟩, ⟨9776, 9783, 1⟩, ⟨9800, 9811, 1⟩,
   ⟨9855, 9855, 1⟩, ⟨9866, 9871, 1⟩, ⟨9875, 9875, 1⟩, ⟨9889, 9889, 1⟩, ⟨9898, 9899, 1⟩,
   ⟨9917, 9918, 1⟩, ⟨9924, 9925, 1⟩, ⟨9934, 9934, 1⟩, ⟨9940, 9940, 1⟩, ⟨9962, 9962, 1⟩,
   ⟨9970, 9971, 1⟩, ⟨9973, 9973, 1⟩, ⟨9978, 9978, 1⟩, ⟨9981, 9981, 1⟩, ⟨9989, 9989, 1⟩,
   ⟨9994, 9995, 1⟩, ⟨10024, 10024, 1⟩, ⟨10060, 10060, 1⟩, ⟨10062, 10062, 1⟩, ⟨10067, 10069, 1⟩,
   ⟨10071, 10071, 1⟩, ⟨10133, 10135, 1⟩, ⟨10160, 10160, 1⟩, ⟨10175, 10175, 1⟩, ⟨11035, 11036, 1⟩,
   ⟨11088, 11088, 1⟩, ⟨11093, 11093, 1⟩, ⟨11904, 11929, 1⟩, ⟨11931, 12019, 1⟩, ⟨12032, 12245, 1⟩,
   ⟨12272, 12329, 1⟩, ⟨12336, 12350, 1⟩, ⟨12353, 12438, 1⟩, ⟨12443, 12543, 1⟩, ⟨12549, 12591, 1⟩,
   ⟨12593, 12686, 1⟩, ⟨12688, 12773, 1⟩, ⟨12783, 12830, 1⟩, ⟨12832, 12871, 1⟩, ⟨12880, 42124, 1⟩,
   ⟨42128, 42182, 1⟩, ⟨43360, 43388, 1⟩, ⟨44032, 55203, 1⟩, ⟨63744, 64255, 1⟩, ⟨65040, 65049, 1⟩,
   ⟨65072, 65106, 1⟩, ⟨65108, 65126, 1⟩, ⟨65128, 65131, 1⟩, ⟨65281, 65376, 1⟩, ⟨65504, 65510, 1⟩,
   ⟨94176, 94179, 1⟩, ⟨94194, 94198, 1⟩, ⟨94208, 101589, 1⟩, ⟨101631, 101662, 1⟩,
   ⟨101760, 101874, 1⟩, ⟨110576, 110579, 1⟩, ⟨110581, 110587, 1⟩, ⟨110589, 110590, 1⟩,
   ⟨110592, 110882, 1⟩, ⟨110898, 110898, 1⟩, ⟨110928, 110930, 1⟩, ⟨110933, 110933, 1⟩,
   ⟨110948, 110951, 1⟩, ⟨110960, 111355, 1⟩, ⟨119552, 119638, 1⟩, ⟨119648, 119670, 1⟩,
   ⟨126980, 126980, 1⟩, ⟨127183, 127183, 1⟩, ⟨127374, 127374, 1⟩, ⟨127377, 127386, 1⟩,
   ⟨127488, 127490, 1⟩, ⟨127504, 127547, 1⟩, ⟨127552, 127560, 1⟩, ⟨127568, 127569, 1⟩,
   ⟨127584, 127589, 1⟩, ⟨127744, 127776, 1⟩, ⟨127789, 127797, 1⟩, ⟨127799, 127868, 1⟩,
   ⟨127870, 127891, 1⟩, ⟨127904, 127946, 1⟩, ⟨127951, 127955, 1⟩, ⟨127968, 127984, 1⟩,
   ⟨127988, 127988, 1⟩, ⟨127992, 127994, 1⟩, ⟨128000, 128062, 1⟩, ⟨128064, 128064, 1⟩,
   ⟨128066, 128252, 1⟩, ⟨128255, 128317, 1⟩, ⟨128331, 128334, 1⟩, ⟨128336, 128359, 1⟩,
   ⟨128378, 128378, 1⟩, ⟨128405, 128406, 1⟩, ⟨128420, 128420, 1⟩, ⟨128507, 128591, 1⟩,
   ⟨128640, 128709, 1⟩, ⟨128716, 128716, 1⟩, ⟨128720, 128722, 1⟩, ⟨128725, 128728, 1⟩,
   ⟨128732, 128735, 1⟩, ⟨128747, 128748, 1⟩, ⟨128756, 128764, 1⟩, ⟨128992, 129003, 1⟩,
   ⟨129008, 129008, 1⟩, ⟨129292, 129338, 1⟩, ⟨129340, 129349, 1⟩, ⟨129351, 129535, 1⟩,
   ⟨129648, 129660, 1⟩, ⟨129664, 129674, 1⟩, ⟨129678, 129734, 1⟩, ⟨129736, 129736, 1⟩,
   ⟨129741, 129756, 1⟩, ⟨129759, 129770, 1⟩, ⟨129775, 129784, 1⟩, ⟨131072, 196605, 1⟩,
   ⟨196608, 262141, 1⟩]

def widenedStrides : List Stride :=
  [⟨35, 35, 1⟩, ⟨42, 42, 1⟩, ⟨48, 57, 1⟩, ⟨169, 169, 1⟩, ⟨174, 174, 1⟩, ⟨8252, 8252, 1⟩,
   ⟨8265, 8265, 1⟩, ⟨8482, 8482, 1⟩, ⟨8505, 8505, 1⟩, ⟨8596, 8601, 1⟩, ⟨8617, 8618, 1⟩,
   ⟨9000, 9000, 1⟩, ⟨9167, 9167, 1⟩, ⟨9197, 9199, 1⟩, ⟨9201, 9202, 1⟩, ⟨9208, 9210, 1⟩,
   ⟨9410, 9410, 1⟩, ⟨9642, 9643, 1⟩, ⟨9654, 9654, 1⟩, ⟨9664, 9664, 1⟩, ⟨9723, 9724, 1⟩,
   ⟨9728, 9732, 1⟩, ⟨9742, 9742, 1⟩, ⟨9745, 9745, 1⟩, ⟨9752, 9752, 1⟩, ⟨9757, 9757, 1⟩,
   ⟨9760, 9760, 1⟩, ⟨9762, 9763, 1⟩, ⟨9766, 9766, 1⟩, ⟨9770, 9770, 1⟩, ⟨9774, 9775, 1⟩,
   ⟨9784, 9786, 1⟩, ⟨9792, 9792, 1⟩, ⟨9794, 9794, 1⟩, ⟨9823, 9824, 1⟩, ⟨9827, 9827, 1⟩,
   ⟨9829, 9830, 1⟩, ⟨9832, 9832, 1⟩, ⟨9851, 9851, 1⟩, ⟨9854, 9854, 1⟩, ⟨9874, 9874, 1⟩,
   ⟨9876, 9879, 1⟩, ⟨9881, 9881, 1⟩, ⟨9883, 9884, 1⟩, ⟨9888, 9888, 1⟩, ⟨9895, 9895, 1⟩,
   ⟨9904, 9905, 1⟩, ⟨9928, 9928, 1⟩, ⟨9935, 9935, 1⟩, ⟨9937, 9937, 1⟩, ⟨9939, 9939, 1⟩,
   ⟨9961, 9961, 1⟩, ⟨9968, 9969, 1⟩, ⟨9972, 9972, 1⟩, ⟨9975, 9977, 1⟩, ⟨9986, 9986, 1⟩,
   ⟨9992, 9993, 1⟩, ⟨9996, 9997, 1⟩, ⟨9999, 9999, 1⟩, ⟨10002, 10002, 1⟩, ⟨10004, 10004, 1⟩,
   ⟨10006, 10006, 1⟩, ⟨10013, 10013, 1⟩, ⟨10017, 10017, 1⟩, ⟨10035, 10036, 1⟩, ⟨10052, 10052, 1⟩,
   ⟨10055, 10055, 1⟩, ⟨10083, 10084, 1⟩, ⟨10145, 10145, 1⟩, ⟨10548, 10549, 1⟩, ⟨11013, 11015, 1⟩,
   ⟨127344, 127345, 1⟩, ⟨127358, 127359, 1⟩, ⟨127777, 127777, 1⟩, ⟨127780, 127788, 1⟩,
   ⟨127798, 127798, 1⟩, ⟨127869, 127869, 1⟩, ⟨127894, 127895, 1⟩, ⟨127897, 127899, 1⟩,
   ⟨127902, 127903, 1⟩, ⟨127947, 127950, 1⟩, ⟨127956, 127967, 1⟩, ⟨127987, 127987, 1⟩,
   ⟨127989, 127989, 1⟩, ⟨127991, 127991, 1⟩, ⟨128063, 128063, 1⟩, ⟨128065, 128065, 1⟩,
   ⟨128253, 128253, 1⟩, ⟨128329, 128330, 1⟩, ⟨128367, 128368, 1⟩, ⟨128371, 128377, 1⟩,
   ⟨128391, 128391, 1⟩, ⟨128394, 128397, 1⟩, ⟨128400, 128400, 1⟩, ⟨128421, 128421, 1⟩,
   ⟨128424, 128424, 1⟩, ⟨128433, 128434, 1⟩, ⟨128444, 128444, 1⟩, ⟨128450, 128452, 1⟩,
   ⟨128465, 128467, 1⟩, ⟨128476, 128478, 1⟩, ⟨128481, 128481, 1⟩, ⟨128483, 128483, 1⟩,
   ⟨128488, 128488, 1⟩, ⟨128495, 128495, 1⟩, ⟨128499, 128499, 1⟩, ⟨128506, 128506, 1⟩,
   ⟨128715, 128715, 1⟩, ⟨128717, 128719, 1⟩, ⟨128736, 128741, 1⟩, ⟨128745, 128745, 1⟩,
   ⟨128752, 128752, 1⟩, ⟨128755, 128755, 1⟩]

def charCells (c : Char) : Nat :=
  if covers doubleWidthStrides c then 2 else if covers zeroWidthStrides c then 0 else 1

def joiner : Char := '\u200d'

def emojiMark : Char := '\ufe0f'

structure Measure where
  cells : Nat
  /-- The last character with cells of its own, unless it was marked since. -/
  last : Option Char
  /-- Whether a joiner draws the next character into the last one. -/
  joined : Bool
  deriving DecidableEq, Repr

def Measure.step (m : Measure) (c : Char) : Measure :=
  if m.joined then { m with joined := false }
  else if c = joiner then { m with joined := true }
  else if c = emojiMark then
    ⟨m.cells + if m.last.any (covers widenedStrides) then 1 else 0, none, false⟩
  else
    match charCells c with
    | 0 => m
    | width => ⟨m.cells + width, some c, false⟩

def cellCount (cs : List Char) : Nat := (cs.foldl Measure.step ⟨0, none, false⟩).cells

end RecordLoom.Text
